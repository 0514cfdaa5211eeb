import JavaTypes.ClassName.Navigation

namespace JavaTypes.ClassName

open Text

variable {c d e : ClassName} {k : Nat}

theorem exists_nested_iff (hc : c.Valid) {n : String} :
    (∃ d, c.nested n = .ok d) ↔ isIdentifier n = true := by
  simp only [nested_eq_ok_iff hc, exists_and_left, exists_eq, and_true]

theorem exists_peer_iff (hc : c.Valid) {n : String} :
    (∃ d, c.peer n = .ok d) ↔ isIdentifier n = true := by
  simp only [peer_eq_ok_iff hc, exists_and_left, exists_eq, and_true]

theorem topLevelClass_of_enclosingClass? (h : c.enclosingClass? = some e) :
    e.topLevelClass = c.topLevelClass := by
  obtain ⟨hp, he⟩ := enclosingClass?_eq_some_iff.mp h
  have hhead : c.enclosing.headD c.simpleName = e.enclosing.headD e.simpleName := by
    rw [he, List.headD_eq_head?_getD, head?_simpleNames, Option.getD_some]
  rw [topLevelClass, topLevelClass, hp, hhead]

theorem topLevelClass_eq_self (h : c.enclosing = []) : c.topLevelClass = c := by
  rw [topLevelClass, h, List.headD_nil, ← h]

theorem canonicalName_inner (c : ClassName) (n : String) :
    canonicalName ⟨c.package, c.simpleNames, n⟩ = c.canonicalName ++ "." ++ n := by
  have hne : c.package ++ c.simpleNames ≠ [] := by simp [c.simpleNames_ne_nil]
  calc
    joined '.' (c.package ++ (c.simpleNames ++ [n]))
      = joined '.' (c.package ++ c.simpleNames ++ [n]) := by rw [List.append_assoc]
    _ = c.canonicalName ++ "." ++ n := joined_concat '.' hne n

theorem binaryName_inner (c : ClassName) (n : String) :
    binaryName ⟨c.package, c.simpleNames, n⟩ = c.binaryName ++ "$" ++ n := by
  have hj : joined '$' (c.simpleNames ++ [n]) = joined '$' c.simpleNames ++ "$" ++ n :=
    joined_concat '$' c.simpleNames_ne_nil n
  calc
    joined '.' (c.package ++ [joined '$' (c.simpleNames ++ [n])])
      = joined '.' (c.package ++ [joined '$' c.simpleNames ++ "$" ++ n]) := by rw [hj]
    _ = c.binaryName ++ "$" ++ n := by rw [joined_concat_append, joined_concat_append, binaryName]

theorem nested_of_enclosingClass? (hc : c.Valid) (h : c.enclosingClass? = some e) :
    e.nested c.simpleName = .ok c := by
  obtain ⟨hp, he⟩ := enclosingClass?_eq_some_iff.mp h
  apply (nested_eq_ok_iff (enclosingClass?_valid hc h)).mpr
  refine ⟨hc.2 _ (by simp [simpleNames]), ?_⟩
  rw [← hp, ← he]

section Outwards

theorem length_enclosing_of_outwards (h : outwards k c = some d) :
    c.enclosing.length = d.enclosing.length + k ∧ d.topLevelClass = c.topLevelClass := by
  induction k generalizing c with
  | zero =>
    cases h
    exact ⟨rfl, rfl⟩
  | succ k ih =>
    obtain ⟨e, he, hd⟩ := Option.bind_eq_some_iff.mp h
    obtain ⟨hl, ht⟩ := ih hd
    have hlength : c.enclosing.length = e.enclosing.length + 1 := by
      rw [(enclosingClass?_eq_some_iff.mp he).2, simpleNames, List.length_append]
      rfl
    refine ⟨by omega, ?_⟩
    rw [ht, topLevelClass_of_enclosingClass? he]

theorem exists_outwards (h : k ≤ c.enclosing.length) : ∃ d, outwards k c = some d := by
  induction k generalizing c with
  | zero => exact ⟨c, rfl⟩
  | succ k ih =>
    cases he : c.enclosingClass? with
    | none =>
      rw [enclosingClass?_eq_none_iff.mp he] at h
      cases h
    | some e =>
      have hone : outwards 1 c = some e := by simp [outwards, he]
      have hl := (length_enclosing_of_outwards hone).1
      obtain ⟨d, hd⟩ := ih (c := e) (by omega)
      exact ⟨d, by rw [outwards, he, Option.bind_some, hd]⟩

theorem outwards_eq_none_iff : outwards k c = none ↔ c.enclosing.length < k := by
  constructor
  · intro h
    apply Nat.lt_of_not_le
    intro hk
    obtain ⟨d, hd⟩ := exists_outwards hk
    rw [h] at hd
    cases hd
  · intro hk
    cases h : outwards k c with
    | none => rfl
    | some d =>
      have hl := (length_enclosing_of_outwards h).1
      omega

theorem outwards_eq_topLevelClass_iff :
    outwards k c = some c.topLevelClass ↔ k = c.enclosing.length := by
  constructor
  · intro h
    have hl := (length_enclosing_of_outwards h).1
    simpa [topLevelClass] using hl.symm
  · rintro rfl
    obtain ⟨d, hd⟩ := exists_outwards (Nat.le_refl c.enclosing.length)
    obtain ⟨hl, ht⟩ := length_enclosing_of_outwards hd
    have hn : d.enclosing = [] := List.length_eq_zero_iff.mp (by omega)
    rw [hd, ← ht, topLevelClass_eq_self hn]

end Outwards

theorem move_valid (hc : c.Valid) (m : Move) :
    (c.move m).Valid ∧ (c.move m).package = c.package := by
  obtain h | ⟨n, h⟩ | ⟨n, h⟩ | h | h := c.move_cases m
  · rw [h]
    exact ⟨hc, rfl⟩
  · obtain ⟨he, hv⟩ := make_eq_ok_iff.mp h
    exact ⟨hv, by rw [he]⟩
  · obtain ⟨he, hv⟩ := make_eq_ok_iff.mp h
    exact ⟨hv, by rw [he]⟩
  · exact ⟨enclosingClass?_valid hc h, (enclosingClass?_eq_some_iff.mp h).1.symm⟩
  · rw [h]
    exact ⟨topLevelClass_valid hc, rfl⟩

theorem walk_valid (hc : c.Valid) (moves : List Move) :
    (c.walk moves).Valid ∧ (c.walk moves).package = c.package := by
  induction moves generalizing c with
  | nil => exact ⟨hc, rfl⟩
  | cons m moves ih =>
    obtain ⟨hv, hp⟩ := move_valid hc m
    obtain ⟨hw, hq⟩ := ih hv
    exact ⟨hw, hq.trans hp⟩

theorem navigation_laws (hc : c.Valid) :
    (∀ n, ((∃ d, c.nested n = .ok d) ↔ isIdentifier n = true) ∧
      ((∃ d, c.peer n = .ok d) ↔ isIdentifier n = true)) ∧
    (∀ n d, c.nested n = .ok d →
      d.enclosingClass? = some c ∧ d.topLevelClass = c.topLevelClass ∧
        d.canonicalName = c.canonicalName ++ "." ++ n ∧
        d.binaryName = c.binaryName ++ "$" ++ n) ∧
    (∀ e, c.enclosingClass? = some e → e.nested c.simpleName = .ok c) ∧
    (∀ n d, c.peer n = .ok d →
      d.package = c.package ∧ d.enclosing = c.enclosing ∧ d.simpleName = n ∧
        d.enclosingClass? = c.enclosingClass?) ∧
    c.peer c.simpleName = .ok c ∧
    (∀ k, outwards k c = some c.topLevelClass ↔ k = c.enclosing.length) ∧
    (∀ k, outwards k c = none ↔ c.enclosing.length < k) ∧
    ∀ moves, (c.walk moves).Valid ∧ (c.walk moves).package = c.package := by
  refine ⟨fun n => ⟨exists_nested_iff hc, exists_peer_iff hc⟩, ?_,
    fun e => nested_of_enclosingClass? hc, ?_, ?_, fun k => outwards_eq_topLevelClass_iff,
    fun k => outwards_eq_none_iff, walk_valid hc⟩
  · intro n d h
    obtain ⟨-, rfl⟩ := (nested_eq_ok_iff hc).mp h
    have he : enclosingClass? ⟨c.package, c.simpleNames, n⟩ = some c :=
      enclosingClass?_eq_some_iff.mpr ⟨rfl, rfl⟩
    exact ⟨he, (topLevelClass_of_enclosingClass? he).symm, canonicalName_inner c n,
      binaryName_inner c n⟩
  · intro n d h
    obtain ⟨-, rfl⟩ := (peer_eq_ok_iff hc).mp h
    exact ⟨rfl, rfl, rfl, rfl⟩
  · exact (peer_eq_ok_iff hc).mpr ⟨hc.2 _ (by simp [simpleNames]), rfl⟩

def twiceNested : ClassName := ⟨["a"], ["Outer", "Middle"], "Inner"⟩

theorem twiceNested_navigation :
    twiceNested.Valid ∧ (∃ d, twiceNested.nested "Leaf" = .ok d) ∧
      ¬ (∃ d, twiceNested.peer "1" = .ok d) ∧
      nested ⟨["a"], ["Outer"], "Middle"⟩ "Inner" = .ok twiceNested ∧
      outwards 2 twiceNested = some twiceNested.topLevelClass ∧ outwards 3 twiceNested = none ∧
      (twiceNested.walk [.peer "1", .enclosing, .nested "Other"]).Valid := by
  have hv : twiceNested.Valid := by decide
  obtain ⟨hmake, -, hback, -, -, htop, hnone, hwalk⟩ := navigation_laws hv
  refine ⟨hv, (hmake "Leaf").1.mpr (by decide), fun h => ?_, hback _ rfl, (htop 2).mpr rfl,
    (hnone 3).mpr (by decide), (hwalk _).1⟩
  exact absurd ((hmake "1").2.mp h) (by decide)

end JavaTypes.ClassName
