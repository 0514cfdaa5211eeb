import Mathlib.Data.Set.Function
import JavaTypes.Proofs.ClassRef.Reading

namespace JavaTypes.ClassRef

open Text

theorem ofDescriptor_descriptor {r : ClassRef} (h : r.Checked) :
    ofDescriptor r.descriptor = .ok r := by
  have hd : reseparated '.' '/' r.descriptor = r.descriptor :=
    reseparated_eq_self r.dot_notMem_descriptor
  exact ofDescriptor_eq_ok_iff.mpr ⟨h, hd⟩

theorem descriptor_injOn : Set.InjOn descriptor {r | r.Checked} := by
  intro r hr q hq hd
  have hread : Except.ok r = (Except.ok q : Except ClassRefError ClassRef) := by
    rw [← ofDescriptor_descriptor hr, ← ofDescriptor_descriptor hq, hd]
  exact Except.ok.inj hread

theorem descriptor_roundTrip :
    (∀ s r, ofName s = .ok r ∨ ofDescriptor s = .ok r ∨ ofObjectName s = .ok r → r.Checked) ∧
      (∀ name, (object name).Checked ↔
        ('/' ∉ name.toList ∧ ';' ∉ name.toList ∧ '[' ∉ name.toList) ∧ "" ∉ segments '.' name) ∧
      (∀ r : ClassRef, r.Checked → ofDescriptor r.descriptor = .ok r) ∧
      Set.InjOn descriptor {r | r.Checked} := by
  refine ⟨fun s r h => ?_, fun name => checked_object.trans isObjectName_iff,
    fun r h => ofDescriptor_descriptor h, descriptor_injOn⟩
  obtain h | h | h := h
  · exact checked_of_ofName h
  · exact (ofDescriptor_eq_ok_iff.mp h).1
  · obtain ⟨hn, rfl⟩ := ofObjectName_eq_ok_iff.mp h
    exact checked_object.mpr hn

def entryMatrix : ClassRef := array (array (object "java.util.Map$Entry"))

theorem entryMatrix_descriptor :
    ofName "[[Ljava.util.Map$Entry;" = .ok entryMatrix ∧ entryMatrix.Checked ∧
      entryMatrix.descriptor = "[[Ljava/util/Map$Entry;" ∧
      ofDescriptor "[[Ljava/util/Map$Entry;" = .ok entryMatrix := by
  have hn : ofName "[[Ljava.util.Map$Entry;" = .ok entryMatrix := by rfl
  have hc : entryMatrix.Checked := descriptor_roundTrip.1 _ _ (.inl hn)
  have hd : entryMatrix.descriptor = "[[Ljava/util/Map$Entry;" := by decide
  exact ⟨hn, hc, hd, hd ▸ descriptor_roundTrip.2.2.1 _ hc⟩

theorem descriptor_of_ofDescriptor {s : String} {r : ClassRef} (h : ofDescriptor s = .ok r) :
    r.descriptor = reseparated '.' '/' s ∧ (r.descriptor = s ↔ '.' ∉ s.toList) ∧
      ∀ s', ofDescriptor s' = .ok r ↔ reseparated '.' '/' s' = reseparated '.' '/' s := by
  obtain ⟨hc, hd⟩ := ofDescriptor_eq_ok_iff.mp h
  refine ⟨hd.symm, ?_, fun s' => ?_⟩
  · rw [← hd]
    exact reseparated_eq_self_iff (by decide)
  · rw [ofDescriptor_eq_ok_iff, hd]
    simp [hc]

theorem slashes_descriptor :
    ofDescriptor "[La/B;" = .ok (array (object "a.B")) ∧
      (array (object "a.B")).descriptor = "[La/B;" := by
  have h : ofDescriptor "[La/B;" = .ok (array (object "a.B")) := by rfl
  exact ⟨h, (descriptor_of_ofDescriptor h).2.1.mpr (by decide)⟩

theorem not_forall_descriptor_eq :
    ¬ ∀ s r, ofDescriptor s = .ok r → r.descriptor = s := by
  intro h
  have hd : (object "a.B").descriptor = "La.B;" := h "La.B;" _ (by rfl)
  exact absurd hd (by decide)

end JavaTypes.ClassRef
