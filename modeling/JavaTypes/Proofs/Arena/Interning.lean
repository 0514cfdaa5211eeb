import JavaTypes.Proofs.Arena.Persistence

namespace JavaTypes

namespace TypeModel

variable {T E : Type} (m : TypeModel T E)

inductive Outward : E → List (ElementKind × String) → Prop
  | last {e : E} (h : m.enclosing? e = none) : Outward e [(m.elementKind e, m.elementName e)]
  | step {e f : E} {rest : List (ElementKind × String)} (h : m.Encloses f e)
      (hf : Outward f rest) : Outward e ((m.elementKind e, m.elementName e) :: rest)

end TypeModel

namespace Arena

variable {α : Type} {a b c : Arena} {e f : ElementId} {d x : ElementData}
  {package name : String} {names : List String}

def Interned (a : Arena) (e : ElementId) (d : ElementData) : Prop :=
  a.element? e = some d ∧ d.Shared a

def Distinct (a : Arena) : Prop :=
  ∀ ⦃e f d⦄, a.Interned e d → a.Interned f d → e = f

section Push

theorem Closed.fits (ha : a.Closed) (he : a.element? e = some d) : d.Fits a := by
  refine ⟨fun f hf => ?_, fun t => ha.bound he⟩
  exact Nat.lt_trans (ha.enclosing he hf) (hasElement_of_element? he)

theorem shared_pushElement_iff (hd : d.Fits a) : d.Shared (a.pushElement x) ↔ d.Shared a := by
  cases d with
  | type name e =>
    have hne : e.index ≠ a.elements.size := Nat.ne_of_lt (hd.1 e rfl)
    simp only [ElementData.Shared, element?_pushElement, if_neg hne]
  | _ => rfl

theorem interned_pushElement_iff (ha : a.Closed) (hx : x.Fits a) :
    (a.pushElement x).Interned e d ↔
      a.Interned e d ∨ e = ⟨a.elements.size⟩ ∧ d = x ∧ x.Shared a := by
  unfold Interned
  rw [element?_pushElement]
  split
  next hi =>
    have hnew : a.element? e ≠ some d := fun he => Nat.ne_of_lt (hasElement_of_element? he) hi
    have he : e = ⟨a.elements.size⟩ := congrArg ElementId.mk hi
    constructor
    · rintro ⟨hd, hs⟩
      cases hd
      exact .inr ⟨he, rfl, (shared_pushElement_iff hx).mp hs⟩
    · rintro (⟨hd, -⟩ | ⟨-, rfl, hs⟩)
      · exact absurd hd hnew
      · exact ⟨rfl, (shared_pushElement_iff hx).mpr hs⟩
  next hi =>
    constructor
    · rintro ⟨hd, hs⟩
      exact .inl ⟨hd, (shared_pushElement_iff (ha.fits hd)).mp hs⟩
    · rintro (⟨hd, hs⟩ | ⟨rfl, -, -⟩)
      · exact ⟨hd, (shared_pushElement_iff (ha.fits hd)).mpr hs⟩
      · exact absurd rfl hi

theorem interned_pushType_iff {y : TypeData} : (a.pushType y).Interned e d ↔ a.Interned e d :=
  Iff.rfl

end Push

section SetElement

variable {owner : ElementId} {old s : TypeId}
  (he : a.element? e = some (.typeParameter name owner old))
include he

theorem shared_setElement_iff :
    d.Shared (a.setElement e (.typeParameter name owner s)) ↔ d.Shared a := by
  cases d with
  | type own g =>
    simp only [ElementData.Shared, element?_setElement (hasElement_of_element? he)]
    by_cases hg : g = e
    · subst hg
      simp [he]
    · simp only [if_neg hg]
  | _ => rfl

theorem interned_setElement_iff :
    (a.setElement e (.typeParameter name owner s)).Interned f d ↔ a.Interned f d := by
  unfold Interned
  rw [shared_setElement_iff he, element?_setElement (hasElement_of_element? he)]
  split
  next hf =>
    subst hf
    rw [he]
    constructor
    · rintro ⟨hd, hs⟩
      cases hd
      exact hs.elim
    · rintro ⟨hd, hs⟩
      cases hd
      exact hs.elim
  next => rfl

end SetElement

theorem Distinct.of_iff (ha : a.Distinct) (h : ∀ e d, b.Interned e d ↔ a.Interned e d) :
    b.Distinct :=
  fun _ _ _ he hf => ha ((h _ _).mp he) ((h _ _).mp hf)

theorem Distinct.pushElement (hd : a.Distinct) (ha : a.Closed) (hx : x.Fits a)
    (hn : x.Shared a → ∀ e, a.element? e ≠ some x) : (a.pushElement x).Distinct := by
  intro e f d he hf
  rw [interned_pushElement_iff ha hx] at he hf
  obtain he | ⟨rfl, rfl, hs⟩ := he
  · obtain hf | ⟨-, rfl, hs⟩ := hf
    · exact hd he hf
    · exact absurd he.1 (hn hs e)
  · obtain hf | ⟨rfl, -, -⟩ := hf
    · exact absurd hf.1 (hn hs f)
    · rfl

theorem Grows.distinct (h : Grows a b) (ha : a.Closed) (hd : a.Distinct) : b.Distinct := by
  induction h with
  | refl => exact hd
  | tail hab hb ih =>
    cases hb with
    | element hx hn => exact ih.pushElement (Grows.closed hab ha) hx hn
    | type => exact ih.of_iff fun _ _ => interned_pushType_iff

theorem Step.distinct (h : Step a b) (ha : a.Closed) (hd : a.Distinct) : b.Distinct := by
  cases h with
  | creates h => exact h.grows.distinct ha hd
  | setBound _ h =>
    obtain ⟨e, name, owner, old, -, he, rfl⟩ := setBound_eq_ok_iff.mp h
    exact hd.of_iff fun _ _ => interned_setElement_iff he
  | setConvention => exact hd.of_iff fun _ _ => Iff.rfl

theorem Reachable.distinct (h : a.Reachable) : a.Distinct := by
  obtain ⟨convention, h⟩ := h
  induction h with
  | refl => nofun
  | tail hab hb ih => exact hb.distinct (closed_of_steps hab (closed_empty convention)) ih

theorem Step.element? (h : Step a b) (he : a.element? e = some d) (k : d.kind ≠ .typeParameter) :
    b.element? e = some d := by
  cases h with
  | creates h => exact h.grows.extends.element he
  | setBound _ h =>
    obtain ⟨f, name, owner, old, -, hf, rfl⟩ := setBound_eq_ok_iff.mp h
    rw [element?_setElement (hasElement_of_element? hf)]
    split
    next heq =>
      subst heq
      cases he.symm.trans hf
      exact absurd rfl k
    next => exact he
  | setConvention => exact he

theorem element?_of_steps (h : Relation.ReflTransGen Step a b) (he : a.element? e = some d)
    (k : d.kind ≠ .typeParameter) : b.element? e = some d := by
  induction h with
  | refl => exact he
  | tail _ hb ih => exact hb.element? ih k

section Located

variable {p q : String} {others outer : List String}

theorem Located.shared (h : a.Located p f outer) (name : String) :
    (ElementData.type name f).Shared a := by
  intro method owner hm
  cases h with
  | package h => cases h.symm.trans hm
  | type _ h => cases h.symm.trans hm

theorem Located.later (h : a.Located p e names) (hb : Relation.ReflTransGen Step a b) :
    b.Located p e names := by
  induction h with
  | package h => exact .package (element?_of_steps hb h nofun)
  | type _ h ih => exact .type ih (element?_of_steps hb h nofun)

theorem Located.unique (h : a.Located p e names) (h' : a.Located q e others) :
    p = q ∧ names = others := by
  induction h generalizing others with
  | package h =>
    cases h' with
    | package h' =>
      cases h.symm.trans h'
      exact ⟨rfl, rfl⟩
    | type _ h' => cases h.symm.trans h'
  | type _ h ih =>
    cases h' with
    | package h' => cases h.symm.trans h'
    | type hf' h' =>
      cases h.symm.trans h'
      obtain ⟨rfl, rfl⟩ := ih hf'
      exact ⟨rfl, rfl⟩

theorem Located.eq (ha : a.Distinct) (h : a.Located p e names) (h' : a.Located p f names) :
    e = f := by
  induction h generalizing f with
  | package h => exact ha ⟨h, trivial⟩ ⟨located_nil_iff.mp h', trivial⟩
  | type hg h ih =>
    obtain ⟨g, hg', h'⟩ := located_append_iff.mp h'
    cases ih hg'
    exact ha ⟨h, hg.shared _⟩ ⟨h', hg.shared _⟩

theorem located_eq_iff (ha : a.Distinct) (he : a.Located p e names) (hf : a.Located q f others) :
    e = f ↔ p = q ∧ names = others := by
  constructor
  · rintro rfl
    exact he.unique hf
  · rintro ⟨rfl, rfl⟩
    exact he.eq ha hf

theorem Located.elementKind_eq (h : a.Located p e names) (hn : names ≠ []) :
    a.model.elementKind e = .type := by
  cases h with
  | package => exact absurd rfl hn
  | type _ h => exact elementKind_of_element? h

theorem Located.not_inMethod {method : String} {owner : ElementId} (h : a.Located p e names)
    (he : a.element? e = some (.type name f)) : a.element? f ≠ some (.method method owner) := by
  cases h with
  | package h => cases h.symm.trans he
  | type hf h =>
    cases h.symm.trans he
    exact hf.shared name method owner

theorem Located.outward (h : a.Located p e names) :
    a.model.Outward e (names.reverse.map (ElementKind.type, ·) ++ [(.package, p)]) := by
  induction h with
  | package h =>
    have ho : a.model.Outward _ _ := .last (enclosing?_of_element? h)
    rwa [elementKind_of_element? h, elementName_of_element? h] at ho
  | type _ h ih =>
    have ho := TypeModel.Outward.step (enclosing?_of_element? h) ih
    rw [elementKind_of_element? h, elementName_of_element? h] at ho
    rwa [List.reverse_concat, List.map_cons, List.cons_append]

theorem makes_share_of_interned (ha : a.Distinct) (he : a.Interned e d) :
    Makes (share d) a e a := by
  obtain ⟨f, b, h⟩ := exists_makes (share d) a
  obtain ⟨rfl, hf⟩ | ⟨hn, -⟩ := makes_share h
  · cases ha he ⟨hf, he.2⟩
    exact h
  · exact absurd he.1 (hn e)

theorem makes_share_of_absent (hn : ∀ e, a.element? e ≠ some d) :
    Makes (share d) a ⟨a.elements.size⟩ (a.pushElement d) := by
  obtain ⟨f, b, h⟩ := exists_makes (share d) a
  obtain ⟨-, hf⟩ | ⟨-, ha⟩ := makes_share h
  · exact absurd hf (hn f)
  · obtain ⟨rfl, rfl⟩ := makes_addElement.mp ha
    exact h

theorem Located.makes (ha : a.Distinct) (h : a.Located p e names) :
    Makes (classElement p names) a e a := by
  induction h with
  | package h =>
    rw [classElement_nil]
    exact makes_share_of_interned ha ⟨h, trivial⟩
  | type hf h ih =>
    rw [classElement_append, makes_bind]
    exact ⟨_, _, ih, makes_share_of_interned ha ⟨h, hf.shared _⟩⟩

end Located

def Returned (c : Arena) (act : StateM Arena α) (x : α) : Prop :=
  ∃ a b, a.Reachable ∧ Creates a b ∧ Makes act a x b ∧ Relation.ReflTransGen Step b c

theorem Returned.distinct {act : StateM Arena α} {y : α} (h : c.Returned act y) : c.Distinct := by
  obtain ⟨a, b, ha, hb, -, hc⟩ := h
  exact ((ha.steps (.single (.creates hb))).steps hc).distinct

theorem Returned.located (h : c.Returned (classElement package names) e) :
    c.Located package e names := by
  obtain ⟨a, b, -, -, he, hc⟩ := h
  exact (makes_classElement he).2.later hc

theorem Returned.inMethod {owner : ElementId} {method : String}
    (h : c.Returned (localClass owner method name) e) :
    ∃ f, c.element? e = some (.type name f) ∧ c.element? f = some (.method method owner) := by
  obtain ⟨a, b, -, -, he, hc⟩ := h
  obtain ⟨f, he, hf⟩ := makes_localClass_inside he
  exact ⟨f, element?_of_steps hc he nofun, element?_of_steps hc hf nofun⟩

theorem Returned.located_package (h : c.Returned (packageElement package) e) :
    c.Located package e [] := by
  rw [← classElement_nil] at h
  exact h.located

end Arena

end JavaTypes
