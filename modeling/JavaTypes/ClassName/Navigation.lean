import JavaTypes.Fallible
import JavaTypes.ClassName.Basic

namespace JavaTypes.ClassName

open Text

def nested (c : ClassName) (simpleName : String) : Except NameError ClassName :=
  make c.package c.simpleNames simpleName

def peer (c : ClassName) (simpleName : String) : Except NameError ClassName :=
  make c.package c.enclosing simpleName

def enclosingClass? (c : ClassName) : Option ClassName :=
  c.enclosing.getLast?.map fun name => ⟨c.package, c.enclosing.dropLast, name⟩

def topLevelClass (c : ClassName) : ClassName :=
  ⟨c.package, [], c.enclosing.headD c.simpleName⟩

theorem nested_eq_ok_iff {c d : ClassName} (hc : c.Valid) {n : String} :
    c.nested n = .ok d ↔ isIdentifier n = true ∧ d = ⟨c.package, c.simpleNames, n⟩ :=
  make_eq_ok_iff_isIdentifier hc.1 hc.2

theorem peer_eq_ok_iff {c d : ClassName} (hc : c.Valid) {n : String} :
    c.peer n = .ok d ↔ isIdentifier n = true ∧ d = ⟨c.package, c.enclosing, n⟩ :=
  make_eq_ok_iff_isIdentifier hc.1 fun s hs => hc.2 s (List.mem_append_left _ hs)

theorem enclosingClass?_eq_some_iff {c d : ClassName} :
    c.enclosingClass? = some d ↔ c.package = d.package ∧ c.enclosing = d.simpleNames := by
  constructor
  · intro h
    obtain ⟨name, hn, rfl⟩ := Option.map_eq_some_iff.mp h
    obtain ⟨outer, ho⟩ := List.getLast?_eq_some_iff.mp hn
    exact ⟨rfl, by simp [simpleNames, ho]⟩
  · rintro ⟨hp, he⟩
    simp [enclosingClass?, he, hp, simpleNames]

theorem enclosingClass?_eq_none_iff {c : ClassName} :
    c.enclosingClass? = none ↔ c.enclosing = [] := by
  simp [enclosingClass?]

def outwards : Nat → ClassName → Option ClassName
  | 0, c => some c
  | k + 1, c => c.enclosingClass?.bind (outwards k)

theorem enclosingClass?_valid {c d : ClassName} (hc : c.Valid) (h : c.enclosingClass? = some d) :
    d.Valid := by
  obtain ⟨name, hn, rfl⟩ := Option.map_eq_some_iff.mp h
  obtain ⟨outer, ho⟩ : ∃ outer, c.enclosing = outer ++ [name] := List.getLast?_eq_some_iff.mp hn
  refine ⟨hc.1, fun s hs => hc.2 s ?_⟩
  simp only [simpleNames, ho, List.dropLast_concat] at hs ⊢
  exact List.mem_append_left _ hs

theorem topLevelClass_valid {c : ClassName} (hc : c.Valid) : c.topLevelClass.Valid := by
  refine ⟨hc.1, fun s hs => hc.2 s ?_⟩
  have he : s = c.enclosing.headD c.simpleName := by simpa [topLevelClass, simpleNames] using hs
  rw [he, simpleNames]
  cases c.enclosing with
  | nil => simp
  | cons outer rest => simp

inductive Move where
  | nested (simpleName : String)
  | peer (simpleName : String)
  | enclosing
  | top
  deriving DecidableEq, Repr

def move? (c : ClassName) : Move → Except NameError (Option ClassName)
  | .nested name => (c.nested name).map some
  | .peer name => (c.peer name).map some
  | .enclosing => .ok c.enclosingClass?
  | .top => .ok (some c.topLevelClass)

def move (c : ClassName) (m : Move) : ClassName :=
  match c.move? m with
  | .ok (some d) => d
  | _ => c

theorem move_cases (c : ClassName) (m : Move) :
    c.move m = c ∨ (∃ n, c.nested n = .ok (c.move m)) ∨ (∃ n, c.peer n = .ok (c.move m)) ∨
      c.enclosingClass? = some (c.move m) ∨ c.move m = c.topLevelClass := by
  unfold move
  split
  next d h =>
    right
    cases m with
    | nested n =>
      obtain ⟨e, he, hd⟩ := map_eq_ok.mp h
      exact .inl ⟨n, he.trans (congrArg _ (Option.some.inj hd))⟩
    | peer n =>
      obtain ⟨e, he, hd⟩ := map_eq_ok.mp h
      exact .inr (.inl ⟨n, he.trans (congrArg _ (Option.some.inj hd))⟩)
    | enclosing => exact .inr (.inr (.inl (Except.ok.inj h)))
    | top => exact .inr (.inr (.inr (Option.some.inj (Except.ok.inj h)).symm))
  next => exact .inl rfl

def walk (c : ClassName) (moves : List Move) : ClassName := moves.foldl move c

end JavaTypes.ClassName
