import JavaTypes.Resolved
import JavaTypes.Proofs.ClassName.BinaryName

namespace JavaTypes

open Text

namespace ClassName

/-- The segments before the last dot are identifiers, and so are the pieces of the rest between
dollar signs. -/
def IsBinaryName (s : String) : Prop :=
  (∀ n ∈ (segments '.' s).dropLast, isIdentifier n = true) ∧
    ∀ n ∈ segments '$' ((segments '.' s).getLastD ""), isIdentifier n = true

instance (s : String) : Decidable (IsBinaryName s) := inferInstanceAs (Decidable (_ ∧ _))

theorem exists_ofBinaryName_iff {s : String} (h : "" ∉ segments '.' s) :
    (∃ c, ofBinaryName s = .ok c) ↔ IsBinaryName s := by
  have hd : (segments '.' s).dropLast ≠ [""] := by
    intro hd
    exact h (List.dropLast_subset _ (by simp [hd]))
  have hp := packageSegments_splitPackage hd
  constructor
  · rintro ⟨c, hc⟩
    obtain ⟨hpc, hsc, hv⟩ := ofBinaryName_eq_ok_iff.mp hc
    rw [hp] at hpc
    exact ⟨hpc ▸ hv.1, hsc ▸ hv.2⟩
  · rintro ⟨hps, hs⟩
    obtain ⟨enclosing, simpleName, hc⟩ : ∃ enclosing simpleName,
        segments '$' (splitPackage s).2 = enclosing ++ [simpleName] :=
      ⟨_, _, (List.dropLast_concat_getLast (segments_ne_nil '$' _)).symm⟩
    have hv : Valid ⟨(segments '.' s).dropLast, enclosing, simpleName⟩ := by
      refine ⟨hps, ?_⟩
      rw [simpleNames, ← hc]
      exact hs
    refine ⟨⟨(segments '.' s).dropLast, enclosing, simpleName⟩, ?_⟩
    exact ofBinaryName_eq_ok_iff.mpr ⟨hp.symm, hc.symm, hv⟩

theorem binaryName_eq_of_ofBinaryName {s : String} {c : ClassName} (h : "" ∉ segments '.' s)
    (hc : ofBinaryName s = .ok c) : c.binaryName = s := by
  obtain hs | hs := spelling_of_ofBinaryName hc
  · exact hs.symm
  · have hd : segments '.' s = "" :: segments '.' c.binaryName := by
      rw [hs]
      exact segments_singleton_append '.' c.binaryName
    rw [hd] at h
    exact absurd List.mem_cons_self h

end ClassName

def TypeName.classRef? : TypeName → Option ClassRef
  | primitive p => (BaseType.ofKeyword? p.keyword).map .primitive
  | void => some .void
  | named c => some (.object c.binaryName)
  | array component => component.classRef?.map .array
  | _ => none

namespace ClassRef

theorem typeName_array (component : ClassRef) :
    (array component).typeName = component.typeName.map .array := rfl

theorem typeName_object {name : String} (h : isObjectName name = true) :
    (object name).typeName = ((ClassName.ofBinaryName name).map .named).mapError .refused := by
  have hn : ¬ name.isEmpty = true := by
    intro he
    rw [String.isEmpty_iff.mp he] at h
    exact absurd h (by decide)
  exact if_neg hn

theorem exists_typeName {r : ClassRef} (hc : r.Checked)
    (h : ∀ name, r.innermost = object name → ClassName.IsBinaryName name) :
    ∃ t, r.typeName = .ok t := by
  induction r with
  | primitive b => exact ⟨_, rfl⟩
  | void => exact ⟨_, rfl⟩
  | array component ih =>
    obtain ⟨t, ht⟩ := ih (checked_array.mp hc).1 h
    exact ⟨.array t, by rw [typeName_array, ht]; rfl⟩
  | object name =>
    rw [checked_object] at hc
    obtain ⟨c, hn⟩ := (ClassName.exists_ofBinaryName_iff (isObjectName_iff.mp hc).2).mpr
      (h name rfl)
    exact ⟨.named c, by rw [typeName_object hc, hn]; rfl⟩

theorem typeName_error {r : ClassRef} (hc : r.Checked) {name : String}
    (hn : r.innermost = object name) (h : ¬ ClassName.IsBinaryName name) :
    ∃ fault, r.typeName = .error (.refused (.malformed name fault)) := by
  induction r with
  | primitive b => cases hn
  | void => cases hn
  | array component ih =>
    obtain ⟨fault, hf⟩ := ih (checked_array.mp hc).1 hn
    exact ⟨fault, by rw [typeName_array, hf]; rfl⟩
  | object name =>
    rw [checked_object] at hc
    cases hn
    rw [typeName_object hc]
    cases hb : ClassName.ofBinaryName name with
    | ok c =>
      have hx := ClassName.exists_ofBinaryName_iff (isObjectName_iff.mp hc).2
      exact absurd (hx.mp ⟨c, hb⟩) h
    | error e =>
      obtain ⟨fault, rfl⟩ := ClassName.ofBinaryName_error hb
      exact ⟨fault, rfl⟩

theorem classRef?_of_typeName {r : ClassRef} (hc : r.Checked) {t : TypeName}
    (h : r.typeName = .ok t) : t.classRef? = some r := by
  induction r generalizing t with
  | primitive b =>
    cases h
    rw [TypeName.classRef?, b.keyword_primitive, BaseType.ofKeyword?_eq_some_iff.mpr rfl]
    rfl
  | void =>
    cases h
    rfl
  | array component ih =>
    obtain ⟨s, hs, rfl⟩ := map_eq_ok.mp h
    rw [TypeName.classRef?, ih (checked_array.mp hc).1 hs]
    rfl
  | object name =>
    rw [checked_object] at hc
    rw [typeName_object hc] at h
    obtain ⟨c, hn, rfl⟩ := map_eq_ok.mp (mapError_eq_ok.mp h)
    have hb := ClassName.binaryName_eq_of_ofBinaryName (isObjectName_iff.mp hc).2 hn
    rw [TypeName.classRef?, hb]

theorem typeName_faithful {r : ClassRef} (h : r.Checked) :
    ((∀ name, r.innermost = object name → ClassName.IsBinaryName name) →
      ∃ t, r.typeName = .ok t) ∧
    (∀ name, r.innermost = object name → ¬ ClassName.IsBinaryName name →
      ∃ fault, r.typeName = .error (.refused (.malformed name fault))) ∧
    (∀ t, r.typeName = .ok t → t.classRef? = some r) ∧
    ∀ q s t, q.Checked → r.typeName = .ok s → q.typeName = .ok t → (r = q ↔ s = t) := by
  refine ⟨exists_typeName h, fun name => typeName_error h, fun t => classRef?_of_typeName h, ?_⟩
  intro q s t hq hs ht
  constructor
  · rintro rfl
    exact Except.ok.inj (hs.symm.trans ht)
  · rintro rfl
    have hr := classRef?_of_typeName h hs
    rw [classRef?_of_typeName hq ht] at hr
    exact (Option.some.inj hr).symm

def anonymousArray : ClassRef := array (object "a.Outer$1")

def innerArray : ClassRef := array (object "a.Outer$Inner")

def innerArrayName : TypeName := .array (.named ⟨["a"], ["Outer"], "Inner"⟩)

theorem anonymousArray_typeName :
    anonymousArray.Checked ∧ ¬ ClassName.IsBinaryName "a.Outer$1" ∧
    (∃ fault, anonymousArray.typeName = .error (.refused (.malformed "a.Outer$1" fault))) ∧
    innerArray.Checked ∧ innerArray.typeName = .ok innerArrayName ∧
    innerArrayName.classRef? = some innerArray ∧
    ∀ q, q.Checked → q.typeName = .ok innerArrayName → innerArray = q := by
  have ha : anonymousArray.Checked := by decide
  have hi : innerArray.Checked := by decide
  have hn : ¬ ClassName.IsBinaryName "a.Outer$1" := by decide
  have ht : innerArray.typeName = .ok innerArrayName := rfl
  refine ⟨ha, hn, (typeName_faithful ha).2.1 _ rfl hn, hi, ht, ?_, fun q hq htq => ?_⟩
  · exact (typeName_faithful hi).2.2.1 _ ht
  · exact ((typeName_faithful hi).2.2.2 q _ _ hq ht htq).mpr rfl

end ClassRef

end JavaTypes
