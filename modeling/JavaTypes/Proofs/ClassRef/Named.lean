import JavaTypes.TypeName.Dimensions
import JavaTypes.Proofs.ClassRef.Descriptor
import JavaTypes.Proofs.ClassRef.Resolved

namespace JavaTypes

open Text

namespace ClassRef

def arrayOf : Nat → ClassRef → ClassRef
  | 0, r => r
  | n + 1, r => array (arrayOf n r)

variable {r : ClassRef} {c : ClassName}

theorem descriptor_arrayOf (n : Nat) (r : ClassRef) :
    (arrayOf n r).descriptor = String.ofList (List.replicate n '[') ++ r.descriptor := by
  apply String.toList_inj.mp
  induction n with
  | zero => simp [arrayOf]
  | succ n ih => simp [arrayOf, ih, List.replicate_succ]

theorem arrayOf_checked (h : r.Checked) (hv : r ≠ void) (n : Nat) : (arrayOf n r).Checked := by
  have hn (n : Nat) : arrayOf n r ≠ void := by
    cases n with
    | zero => exact hv
    | succ n => nofun
  induction n with
  | zero => exact h
  | succ n ih => exact checked_array.mpr ⟨ih, hn n⟩

theorem typeName_arrayOf {t : TypeName} (h : r.typeName = .ok t) (n : Nat) :
    (arrayOf n r).typeName = .ok (t.arrayOf n) := by
  induction n with
  | zero => exact h
  | succ n ih =>
    rw [arrayOf, typeName_array, ih]
    rfl

theorem isObjectName_binaryName (h : c.Valid) : isObjectName c.binaryName = true := by
  apply isObjectName_iff.mpr
  refine ⟨⟨?_, ?_, ?_⟩, h.empty_notMem_segments_binaryName⟩
  all_goals exact h.notMem_binaryName (by decide) (by decide) (by decide)

theorem typeName_binaryName (h : c.Valid) (hd : ∀ n ∈ c.simpleNames, '$' ∉ n.toList) :
    (object c.binaryName).typeName = .ok (.named c) := by
  have hc : ClassName.ofBinaryName c.binaryName = .ok c := by
    rw [ClassName.ofBinaryName_eq_ok_iff, h.splitPackage_binaryName]
    exact ⟨h.packageSegments_packageName.symm,
      (segments_joined '$' c.simpleNames_ne_nil hd).symm, h⟩
  rw [typeName_object (isObjectName_binaryName h), hc]
  rfl

theorem typeName_of_descriptor (h : r.Checked) (hv : r ≠ void) {t : TypeName}
    (ht : r.typeName = .ok t) (n : Nat) :
    ∃ q, ofDescriptor (String.ofList (List.replicate n '[') ++ r.descriptor) = .ok q ∧
      q.typeName = .ok (t.arrayOf n) := by
  refine ⟨arrayOf n r, ?_, typeName_arrayOf ht n⟩
  rw [← descriptor_arrayOf]
  exact ofDescriptor_descriptor (arrayOf_checked h hv n)

end ClassRef

end JavaTypes
