import JavaTypes.Model.Table
import JavaTypes.Proofs.Conversion.Naming

namespace JavaTypes.TypeModel

variable {T E : Type} (m : TypeModel T E)

/-- The elements around `e` from the innermost on, up to one that nothing encloses. -/
inductive Chain : E → List E → Prop
  | nil {e : E} (h : m.enclosing? e = none) : Chain e []
  | cons {e f : E} {fs : List E} (h : m.Encloses f e) (hf : Chain f fs) : Chain e (f :: fs)

def isType (f : E) : Bool := m.elementKind f = .type

def around (own : String) (es : List E) : Except ConversionError (String × List String) :=
  let outer := ((es.takeWhile m.isType).map m.elementName).reverse
  match es.find? (!m.isType ·) with
  | none => .ok ("", outer)
  | some f =>
    if m.elementKind f = .package then .ok (m.elementName f, outer)
    else .error (.invalidInput (.localClass own))

def nameAmong (own : String) (es : List E) : Except ConversionError ClassName := do
  let (package, outer) ← m.around own es
  (ClassName.new package outer own).mapError .refused

section

variable {m} {e f : E} {es : List E}

theorem around_cons_of_type (own : String) (hf : m.elementKind f = .type) (es : List E) :
    m.around own (f :: es) =
      (m.around own es).map fun s => (s.1, s.2 ++ [m.elementName f]) := by
  have ht : m.isType f = true := by simp [isType, hf]
  have hfind : (f :: es).find? (!m.isType ·) = es.find? (!m.isType ·) :=
    List.find?_cons_of_neg (by simp [ht])
  simp only [around, hfind, List.takeWhile_cons_of_pos ht, List.map_cons, List.reverse_cons]
  cases es.find? (!m.isType ·) with
  | none => rfl
  | some g => by_cases hg : m.elementKind g = .package <;> simp [hg, Except.map]

theorem around_cons_of_ne (own : String) (hf : m.elementKind f ≠ .type) (es : List E) :
    m.around own (f :: es) =
      if m.elementKind f = .package then .ok (m.elementName f, [])
      else .error (.invalidInput (.localClass own)) := by
  have ht : m.isType f = false := by simp [isType, hf]
  simp [around, ht]

theorem surroundings_of_chain (h : m.Chain e es) (own : String) (n : Nat) :
    m.surroundings own n (m.enclosing? e) =
      if n ≤ (es.takeWhile m.isType).length then .error .exhausted
      else (m.around own es).mapError .failed := by
  induction h generalizing n with
  | nil h =>
    rw [h]
    cases n with
    | zero => rfl
    | succ n => rfl
  | @cons e f fs h hf ih =>
    cases n with
    | zero => rw [if_pos (Nat.zero_le _)]; rfl
    | succ n =>
      rw [show m.enclosing? e = some f from h, surroundings]
      by_cases k : m.elementKind f = .type
      · have ht : m.isType f = true := by simp [isType, k]
        have hlength : ((f :: fs).takeWhile m.isType).length =
            (fs.takeWhile m.isType).length + 1 := by
          rw [List.takeWhile_cons_of_pos ht, List.length_cons]
        rw [around_cons_of_type own k, hlength]
        simp only [k, ih n, Nat.add_le_add_iff_right]
        by_cases hn : n ≤ (fs.takeWhile m.isType).length
        · rw [if_pos hn, if_pos hn]
          rfl
        · rw [if_neg hn, if_neg hn]
          cases m.around own fs <;> rfl
      · have ht : m.isType f = false := by simp [isType, k]
        have hlength : ((f :: fs).takeWhile m.isType).length = 0 := by simp [ht]
        rw [around_cons_of_ne own k, hlength, if_neg (by omega)]
        cases hk : m.elementKind f with
        | type => exact absurd hk k
        | _ => rfl

theorem className_eq_nameAmong (h : m.Chain e es) (n : Nat) :
    m.className n e =
      if n ≤ (es.takeWhile m.isType).length then .error .exhausted
      else (m.nameAmong (m.elementName e) es).mapError .failed := by
  rw [className_eq, surroundings_of_chain h, nameAmong]
  by_cases hn : n ≤ (es.takeWhile m.isType).length
  · rw [if_pos hn, if_pos hn]
  · rw [if_neg hn, if_neg hn]
    cases m.around (m.elementName e) es with
    | error err => rfl
    | ok s => exact (mapError_mapError _ _ _).symm

theorem className_of_chain (h : m.Chain e es) :
    (∀ n, m.className n e =
      if n ≤ (es.takeWhile m.isType).length then .error .exhausted
      else (m.nameAmong (m.elementName e) es).mapError .failed) ∧
    ∀ r, m.HasName e r ↔ r = m.nameAmong (m.elementName e) es := by
  have hname : m.HasName e (m.nameAmong (m.elementName e) es) := by
    refine ⟨(es.takeWhile m.isType).length + 1, ?_⟩
    rw [className_eq_nameAmong h, if_neg (by omega)]
  refine ⟨className_eq_nameAmong h, fun r => ?_⟩
  constructor
  · intro hr
    exact hr.unique hname
  · rintro rfl
    exact hname

end

end JavaTypes.TypeModel

namespace JavaTypes.Table

/-- `a.b.Outer.Inner`, a class `1nner` beside it, and a class `Local` in a method of that class. -/
def localNames : Table where
  types := #[]
  elements := #[⟨.package, "a.b", none⟩, ⟨.type, "Outer", some 0⟩, ⟨.type, "Inner", some 1⟩,
    ⟨.type, "1nner", some 1⟩, ⟨.other, "run", some 3⟩, ⟨.type, "Local", some 4⟩]
  convention := .wrap

theorem localNames_className :
    localNames.model.Chain 2 [1, 0] ∧ localNames.model.Chain 3 [1, 0] ∧
      localNames.model.Chain 5 [4, 3, 1, 0] ∧
      localNames.model.className 1 2 = .error .exhausted ∧
      localNames.model.HasName 2 (.ok ⟨["a", "b"], ["Outer"], "Inner"⟩) ∧
      localNames.model.HasName 3
        (.error (.refused (.malformed "a.b.Outer.1nner" .classSegment))) ∧
      localNames.model.HasName 5 (.error (.invalidInput (.localClass "Local"))) := by
  have hinner : localNames.model.Chain 2 [1, 0] := .cons rfl (.cons rfl (.nil rfl))
  have hdigit : localNames.model.Chain 3 [1, 0] := .cons rfl (.cons rfl (.nil rfl))
  have hlocal : localNames.model.Chain 5 [4, 3, 1, 0] := .cons rfl (.cons rfl hdigit)
  exact ⟨hinner, hdigit, hlocal, (TypeModel.className_of_chain hinner).1 1,
    ((TypeModel.className_of_chain hinner).2 _).mpr rfl,
    ((TypeModel.className_of_chain hdigit).2 _).mpr rfl,
    ((TypeModel.className_of_chain hlocal).2 _).mpr rfl⟩

end JavaTypes.Table
