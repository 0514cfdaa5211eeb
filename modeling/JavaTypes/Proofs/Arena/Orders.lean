import JavaTypes.Proofs.Arena.Growth
import JavaTypes.Proofs.Conversion.WellFormed

namespace JavaTypes

namespace TypeData

theorem mem_contents_of_component? {d : TypeData} {t : TypeId} (h : d.component? = some t) :
    t ∈ d.contents := by
  cases d <;> cases h
  exact List.mem_singleton_self t

theorem arguments_subset_contents (d : TypeData) : d.arguments ⊆ d.contents := by
  cases d with
  | declared => exact List.Subset.refl _
  | _ => exact List.nil_subset _

theorem parts_subset_contents (d : TypeData) : d.parts ⊆ d.contents := by
  cases d with
  | intersection => exact List.Subset.refl _
  | _ => exact List.nil_subset _

end TypeData

namespace Arena

variable {a : Arena} {s t : TypeId} {e f : ElementId}

section Types

variable {d : TypeData}

theorem kind_of_type? (h : a.type? t = some d) : a.model.kind t = d.kind := by
  simp [model, h]

theorem component?_of_type? (h : a.type? t = some d) : a.model.component? t = d.component? := by
  simp [model, h]

theorem modelElement?_of_type? (h : a.type? t = some d) : a.model.element? t = d.element? := by
  simp [model, h]

theorem arguments_of_type? (h : a.type? t = some d) : a.model.arguments t = d.arguments := by
  simp [model, h]

theorem parts_of_type? (h : a.type? t = some d) : a.model.parts t = d.parts := by
  simp [model, h]

theorem exists_type?_of_kind (h : a.model.kind t ≠ .none) : ∃ d, a.type? t = some d := by
  cases ht : a.type? t with
  | none => exact absurd (by simp [model, ht]) h
  | some d => exact ⟨d, rfl⟩

theorem type?_of_kind_typeVariable (k : a.model.kind t = .typeVariable)
    (h : a.model.element? t = some e) : a.type? t = some (.typeVariable e) := by
  obtain ⟨d, hd⟩ := exists_type?_of_kind (by rw [k]; nofun)
  rw [kind_of_type? hd] at k
  rw [modelElement?_of_type? hd] at h
  cases d <;> cases h <;> cases k
  exact hd

theorem coherent (a : Arena) : a.model.Coherent := by
  intro s t e ks kt hs ht
  have hs := type?_of_kind_typeVariable ks hs
  have ht := type?_of_kind_typeVariable kt ht
  simp [model, parameter?, hs, ht]

end Types

section Elements

variable {d : ElementData}

theorem elementKind_of_element? (h : a.element? e = some d) : a.model.elementKind e = d.kind := by
  simp [model, h]

theorem elementName_of_element? (h : a.element? e = some d) : a.model.elementName e = d.name := by
  simp [model, h]

theorem enclosing?_of_element? (h : a.element? e = some d) :
    a.model.enclosing? e = d.enclosing? := by
  simp [model, h]

end Elements

theorem exists_of_inside (h : a.model.Inside s t) : ∃ d, a.type? t = some d ∧ s ∈ d.contents := by
  have k : a.model.kind t ≠ .none := by
    cases h with
    | component k | argument k | part k => simp [k]
  obtain ⟨d, hd⟩ := exists_type?_of_kind k
  refine ⟨d, hd, ?_⟩
  cases h with
  | component _ h =>
    rw [component?_of_type? hd] at h
    exact TypeData.mem_contents_of_component? h
  | argument _ h =>
    rw [arguments_of_type? hd] at h
    exact d.arguments_subset_contents h
  | part _ h =>
    rw [parts_of_type? hd] at h
    exact d.parts_subset_contents h

theorem exists_of_upperBound? (h : a.model.upperBound? t = some s) : ∃ e d,
    a.type? t = some (.typeVariable e) ∧ a.element? e = some d ∧ d.bound? = some s := by
  simp only [model, parameter?] at h
  cases ht : a.type? t with
  | none => simp [ht] at h
  | some d =>
    cases d with
    | typeVariable e =>
      cases he : a.element? e with
      | none => simp [ht, he] at h
      | some d =>
        refine ⟨e, d, rfl, he, ?_⟩
        simp only [ht, Option.bind_some, he] at h
        split at h
        next hd =>
          cases hd
          exact h
        next => cases h
    | _ => simp [ht] at h

namespace Closed

variable (ha : a.Closed)
include ha

theorem index_lt_of_inside (h : a.model.Inside s t) : s.index < t.index := by
  obtain ⟨d, hd, hs⟩ := exists_of_inside h
  exact ha.contents hd s hs

theorem hasElement (h : a.model.element? t = some e) : a.HasElement e := by
  obtain ⟨d, hd, he⟩ := Option.bind_eq_some_iff.mp h
  exact ha.element hd he

theorem index_lt_of_encloses (h : a.model.Encloses e f) : e.index < f.index := by
  obtain ⟨d, hd, he⟩ := Option.bind_eq_some_iff.mp h
  exact ha.enclosing hd he

theorem hasType_of_upperBound? (h : a.model.upperBound? t = some s) : a.HasType s := by
  obtain ⟨e, d, -, hd, hs⟩ := exists_of_upperBound? h
  exact ha.bound hd hs

theorem hasType_of_mem {d : TypeData} (hd : a.type? t = some d) (hs : s ∈ d.contents) :
    a.HasType s :=
  Nat.lt_trans (ha.contents hd s hs) (hasType_of_type? hd)

theorem hasType_of_inside (h : a.model.Inside s t) : a.HasType s := by
  obtain ⟨d, hd, hs⟩ := exists_of_inside h
  exact ha.hasType_of_mem hd hs

end Closed

end Arena

end JavaTypes
