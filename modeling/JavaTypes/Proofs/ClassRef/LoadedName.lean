import JavaTypes.Proofs.ClassRef.Reading

namespace JavaTypes.ClassRef

open Text

theorem isArray_of_head? {r : ClassRef} (h : r.descriptor.toList.head? = some '[') :
    ∃ component, r = array component := by
  cases r with
  | primitive b => cases b <;> exact absurd h (by decide)
  | void => exact absurd h (by decide)
  | array component => exact ⟨component, rfl⟩
  | object name => simp at h

theorem name_of_ofName {s : String} {r : ClassRef} (h : ofName s = .ok r) : r.name = s := by
  obtain ⟨rfl, rfl⟩ | ⟨b, rfl, rfl⟩ | ⟨hhead, ha⟩ | ⟨-, rfl⟩ := ofName_cases h
  · rfl
  · rfl
  · obtain ⟨hs, -, hd⟩ := ofArrayName_eq_ok_iff.mp ha
    have hr : r.descriptor.toList.head? = some '[' := by
      rw [← hd, toList_reseparated, List.head?_map, hhead]
      rfl
    obtain ⟨component, rfl⟩ := isArray_of_head? hr
    rw [name, ← hd, reseparated_reseparated hs]
  · rfl

theorem ofName_keyword (b : BaseType) : ofName b.keyword = .ok (primitive b) := by
  have hv : b.keyword ≠ "void" := by cases b <;> decide
  rw [ofName, if_neg hv, BaseType.ofKeyword?_eq_some_iff.mpr rfl]

theorem ofName_of_not_keyword {s : String} (hv : s ≠ "void")
    (hk : ∀ b : BaseType, s ≠ b.keyword) :
    ofName s = if s.toList.head? = some '[' then ofArrayName s else ofObjectName s := by
  rw [ofName, if_neg hv, BaseType.ofKeyword?_eq_none_iff.mpr hk]

theorem ofName_of_head? {s : String} (h : s.toList.head? = some '[') :
    ofName s = ofArrayName s := by
  have hv : s ≠ "void" := by
    rintro rfl
    exact absurd h (by decide)
  have hk : ∀ b : BaseType, s ≠ b.keyword := by
    rintro b rfl
    cases b <;> exact absurd h (by decide)
  rw [ofName_of_not_keyword hv hk, if_pos h]

theorem head?_name_array (component : ClassRef) :
    (array component).name.toList.head? = some '[' := by
  rw [name, toList_reseparated, toList_descriptor_array]
  rfl

theorem ofName_name_array {component : ClassRef} (h : (array component).Checked) :
    ofName (array component).name = .ok (array component) := by
  have hs : '/' ∉ (array component).name.toList := notMem_reseparated (by decide) _
  have hd : reseparated '.' '/' (array component).name = (array component).descriptor := by
    rw [name, reseparated_swap, reseparated_eq_self (array component).dot_notMem_descriptor]
  rw [ofName_of_head? (head?_name_array component)]
  exact ofArrayName_eq_ok_iff.mpr ⟨hs, h, hd⟩

theorem ofName_object_iff {name : String} (h : isObjectName name = true) :
    ofName name = .ok (object name) ↔ name ≠ "void" ∧ ∀ b : BaseType, name ≠ b.keyword := by
  constructor
  · intro hr
    refine ⟨?_, fun b => ?_⟩
    · rintro rfl
      cases hr
    · rintro rfl
      rw [ofName_keyword] at hr
      cases hr
  · rintro ⟨hv, hk⟩
    have hhead : name.toList.head? ≠ some '[' := by
      intro hb
      exact (isObjectName_iff.mp h).1.2.2 (List.mem_of_mem_head? hb)
    rw [ofName_of_not_keyword hv hk, if_neg hhead]
    exact ofObjectName_eq_ok_iff.mpr ⟨h, rfl⟩

theorem name_roundTrip :
    (∀ s r, ofName s = .ok r → r.name = s) ∧
      ∀ r : ClassRef, r.Checked →
        (ofName r.name = .ok r ↔
          ∀ n, r = object n → n ≠ "void" ∧ ∀ b : BaseType, n ≠ b.keyword) := by
  refine ⟨fun s r h => name_of_ofName h, fun r hc => ?_⟩
  cases r with
  | primitive b => simp [name, ofName_keyword]
  | void => simp [name, ofName]
  | array component => simp [ofName_name_array hc]
  | object name =>
    rw [ClassRef.name, ofName_object_iff (checked_object.mp hc)]
    simp

theorem entries_name :
    ofName "[Ljava.util.Map$Entry;" = .ok (array (object "java.util.Map$Entry")) ∧
      (array (object "java.util.Map$Entry")).name = "[Ljava.util.Map$Entry;" ∧
      (object "int").Checked ∧ ofName (object "int").name ≠ .ok (object "int") := by
  have h : ofName "[Ljava.util.Map$Entry;" = .ok (array (object "java.util.Map$Entry")) := by rfl
  have hi : (object "int").Checked := by decide
  refine ⟨h, name_roundTrip.1 _ _ h, hi, fun hr => ?_⟩
  exact ((name_roundTrip.2 _ hi).mp hr "int" rfl).2 .int rfl

end JavaTypes.ClassRef
