import Mathlib.Data.List.Induction
import JavaTypes.Proofs.Arena.Growth

namespace JavaTypes.Arena

/-- The element is that of the class with these names, the outermost first, or of the package if
there are no names. -/
inductive Located (a : Arena) (package : String) : ElementId → List String → Prop
  | package {e} (h : a.element? e = some (.package package)) : Located a package e []
  | type {e f outer name} (hf : Located a package f outer)
      (h : a.element? e = some (.type name f)) : Located a package e (outer ++ [name])

inductive Creates (a b : Arena) : Prop
  | packageElement {name e} (h : Makes (packageElement name) a e b)
  | classElement {package names e} (h : Makes (classElement package names) a e b)
  | localClass {owner method name e} (ho : a.HasElement owner)
      (h : Makes (localClass owner method name) a e b)
  | classType {package names t} (h : Makes (classType package names) a t b)
  | objectType {t} (h : Makes objectType a t b)
  | declared {e arguments t} (he : a.HasElement e) (hs : ∀ s ∈ arguments, a.HasType s)
      (h : Makes (declared e arguments) a t b)
  | primitive {p t} (h : Makes (primitive p) a t b)
  | void {t} (h : Makes void a t b)
  | null {t} (h : Makes null a t b)
  | arrayOf {n s t} (hs : a.HasType s) (h : Makes (arrayOf n s) a t b)
  | intersection {parts t} (hs : ∀ s ∈ parts, a.HasType s) (h : Makes (intersection parts) a t b)
  | bare {kind t} (h : Makes (bare kind) a t b)
  | typeParameter {owner name t} (ho : a.HasElement owner)
      (h : Makes (typeParameter owner name) a t b)
  | typeVariable {e t} (he : a.HasElement e) (h : Makes (typeVariable e) a t b)

inductive Step (a : Arena) : Arena → Prop
  | creates {b} (h : Creates a b) : Step a b
  | setBound {t bound b} (ht : a.HasType bound) (h : a.setBound t bound = .ok b) : Step a b
  | setConvention (convention : Convention) : Step a (a.setConvention convention)

def Reachable (a : Arena) : Prop :=
  ∃ convention, Relation.ReflTransGen Step (empty convention) a

variable {a b c : Arena} {e f : ElementId} {t : TypeId} {package name : String}
  {names outer : List String}

theorem Located.extends (h : a.Located package e names) (hb : b.Extends a) :
    b.Located package e names := by
  induction h with
  | package h => exact .package (hb.element h)
  | type _ h ih => exact .type ih (hb.element h)

theorem Located.hasElement (h : a.Located package e names) : a.HasElement e := by
  cases h with
  | package h => exact hasElement_of_element? h
  | type _ h => exact hasElement_of_element? h

theorem located_nil_iff : a.Located p e [] ↔ a.element? e = some (.package p) := by
  refine ⟨fun h => ?_, .package⟩
  generalize hn : ([] : List String) = names at h
  cases h with
  | package h => exact h
  | type => simp at hn

theorem located_append_iff : a.Located p e (outer ++ [name]) ↔
    ∃ f, a.Located p f outer ∧ a.element? e = some (.type name f) := by
  refine ⟨fun h => ?_, fun ⟨_, hf, he⟩ => .type hf he⟩
  generalize hn : outer ++ [name] = names at h
  cases h with
  | package => simp at hn
  | type hf he =>
    obtain ⟨rfl, ho⟩ := List.append_inj' hn rfl
    cases ho
    exact ⟨_, hf, he⟩

section Operations

theorem fits_package : (ElementData.package name).Fits a := ⟨nofun, nofun⟩

theorem fits_type (h : a.HasElement e) : (ElementData.type name e).Fits a :=
  ⟨fun _ he => Option.some.inj he ▸ h, nofun⟩

theorem fits_method (h : a.HasElement e) : (ElementData.method name e).Fits a :=
  ⟨fun _ he => Option.some.inj he ▸ h, nofun⟩

theorem fits_typeParameter (h : a.HasElement e) (ht : a.HasType t) :
    (ElementData.typeParameter name e t).Fits a :=
  ⟨fun _ he => Option.some.inj he ▸ h, fun _ hs => Option.some.inj hs ▸ ht⟩

theorem fits_declared {arguments : List TypeId} (h : a.HasElement e)
    (hs : ∀ s ∈ arguments, a.HasType s) : (TypeData.declared e arguments).Fits a :=
  ⟨hs, fun _ he => Option.some.inj he ▸ h⟩

theorem fits_typeVariable (h : a.HasElement e) : (TypeData.typeVariable e).Fits a :=
  ⟨nofun, fun _ he => Option.some.inj he ▸ h⟩

theorem fits_array (h : a.HasType t) : (TypeData.array t).Fits a :=
  ⟨fun _ hs => List.mem_singleton.mp hs ▸ h, nofun⟩

theorem fits_intersection {parts : List TypeId} (h : ∀ s ∈ parts, a.HasType s) :
    (TypeData.intersection parts).Fits a :=
  ⟨h, nofun⟩

theorem classElement_nil : classElement package [] = packageElement package := bind_pure _

theorem classElement_append : classElement package (outer ++ [name]) =
    classElement package outer >>= fun f => share (.type name f) := by
  simp [classElement, List.foldlM_append]

theorem makes_classElement (h : Makes (classElement package names) a e b) :
    Grows a b ∧ b.Located package e names := by
  induction names using List.reverseRecOn generalizing b e with
  | nil =>
    rw [classElement_nil] at h
    obtain ⟨hab, he⟩ := grows_share h fits_package
    exact ⟨hab, .package he⟩
  | append_singleton outer name ih =>
    rw [classElement_append, makes_bind] at h
    obtain ⟨f, c, hf, h⟩ := h
    obtain ⟨hac, hl⟩ := ih hf
    obtain ⟨hcb, he⟩ := grows_share h (fits_type hl.hasElement)
    exact ⟨hac.trans hcb, .type (hl.extends hcb.extends) he⟩

theorem makes_localClass {method : String} (h : Makes (localClass f method name) a e b)
    (hf : a.HasElement f) : Grows a b := by
  obtain ⟨g, c, hg, h⟩ := makes_bind.mp h
  obtain ⟨hac, hm⟩ := grows_addElement hg (fits_method hf) False.elim
  obtain ⟨hcb, -⟩ := grows_addElement h (fits_type (hasElement_of_element? hm)) fun hs =>
    absurd hm (hs method f)
  exact hac.trans hcb

theorem makes_localClass_inside {method : String} (h : Makes (localClass f method name) a e b) :
    ∃ g, b.element? e = some (.type name g) ∧ b.element? g = some (.method method f) := by
  obtain ⟨g, c, hg, h⟩ := makes_bind.mp h
  obtain ⟨rfl, rfl⟩ := makes_addElement.mp hg
  obtain ⟨rfl, rfl⟩ := makes_addElement.mp h
  refine ⟨⟨a.elements.size⟩, element?_pushElement_self, (pushElement_extends _ _).element ?_⟩
  exact element?_pushElement_self

theorem makes_classType (h : Makes (classType package names) a t b) :
    Grows a b ∧ ∃ e, b.Located package e names ∧ b.type? t = some (.declared e []) := by
  obtain ⟨e, c, he, h⟩ := makes_bind.mp h
  obtain ⟨hac, hl⟩ := makes_classElement he
  obtain ⟨hcb, ht⟩ := grows_addType h (fits_declared hl.hasElement nofun)
  exact ⟨hac.trans hcb, e, hl.extends hcb.extends, ht⟩

theorem makes_typeParameter (h : Makes (typeParameter f name) a t b) (hf : a.HasElement f) :
    Grows a b ∧ ∃ e s g, ¬ a.HasElement e ∧ b.type? t = some (.typeVariable e) ∧
      b.element? e = some (.typeParameter name f s) ∧ b.Located "java.lang" g ["Object"] ∧
      b.type? s = some (.declared g []) := by
  obtain ⟨s, c, hs, h⟩ := makes_bind.mp h
  obtain ⟨e, d, he, h⟩ := makes_bind.mp h
  obtain ⟨hac, g, hg, hs⟩ := makes_classType hs
  have hnew : ¬ a.HasElement e := by
    intro ha
    have hc := hac.extends.hasElement ha
    rw [(makes_addElement.mp he).1] at hc
    exact Nat.lt_irrefl _ hc
  obtain ⟨hcd, he⟩ :=
    grows_addElement he (fits_typeParameter (hac.extends.hasElement hf) (hasType_of_type? hs))
      False.elim
  obtain ⟨hdb, ht⟩ := grows_addType h (fits_typeVariable (hasElement_of_element? he))
  have hcb : b.Extends c := hdb.extends.trans hcd.extends
  exact ⟨(hac.trans hcd).trans hdb, e, s, g, hnew, ht, hdb.extends.element he,
    hg.extends hcb, hcb.type hs⟩

theorem makes_arrayOf {n : Nat} {s : TypeId} (h : Makes (arrayOf n s) a t b) (hs : a.HasType s) :
    Grows a b := by
  induction n generalizing a s with
  | zero =>
    obtain ⟨rfl, rfl⟩ := makes_pure.mp h
    exact .refl
  | succ n ih =>
    obtain ⟨u, c, hu, h⟩ := makes_bind.mp h
    obtain ⟨hac, hu⟩ := grows_addType hu (fits_array hs)
    exact hac.trans (ih h (hasType_of_type? hu))

end Operations

theorem Creates.grows (h : Creates a b) : Grows a b := by
  cases h with
  | packageElement h => exact (grows_share h fits_package).1
  | classElement h => exact (makes_classElement h).1
  | localClass ho h => exact makes_localClass h ho
  | classType h | objectType h => exact (makes_classType h).1
  | declared he hs h => exact (grows_addType h (fits_declared he hs)).1
  | primitive h | void h | null h | bare h => exact (grows_addType h ⟨nofun, nofun⟩).1
  | arrayOf hs h => exact makes_arrayOf h hs
  | intersection hs h => exact (grows_addType h (fits_intersection hs)).1
  | typeParameter ho h => exact (makes_typeParameter h ho).1
  | typeVariable he h => exact (grows_addType h (fits_typeVariable he)).1

section SetBound

variable {d : ElementData} {bound : TypeId}

def setElement (a : Arena) (e : ElementId) (d : ElementData) : Arena :=
  { a with elements := a.elements.setIfInBounds e.index d }

theorem element?_setElement (he : a.HasElement e) :
    (a.setElement e d).element? f = if f = e then some d else a.element? f := by
  have hi : f = e ↔ e.index = f.index := by
    cases e
    cases f
    simp [eq_comm]
  have hlt : e.index < a.elements.size := he
  simp only [setElement, element?, Array.getElem?_setIfInBounds, hi, if_pos hlt]

theorem hasElement_setElement : (a.setElement e d).HasElement f ↔ a.HasElement f := by
  unfold HasElement setElement
  rw [Array.size_setIfInBounds]

theorem setBound_eq_ok_iff : a.setBound t bound = .ok b ↔ ∃ e name owner old,
    a.type? t = some (.typeVariable e) ∧ a.element? e = some (.typeParameter name owner old) ∧
      b = a.setElement e (.typeParameter name owner bound) := by
  unfold setBound parameter?
  constructor
  · intro h
    split at h
    next => cases h
    next e hp =>
      split at hp
      next f ht =>
        cases hp
        split at h
        next name owner old he =>
          cases h
          exact ⟨e, name, owner, old, ht, he, rfl⟩
        next => cases h
        next => cases h
      next => cases hp
  · rintro ⟨e, name, owner, old, ht, he, rfl⟩
    simp only [ht, he]
    rfl

theorem Closed.setBound (ha : a.Closed) (hb : a.HasType bound) (h : a.setBound t bound = .ok b) :
    b.Closed := by
  obtain ⟨e, name, owner, old, -, he, rfl⟩ := setBound_eq_ok_iff.mp h
  have hin := hasElement_of_element? he
  constructor
  · exact ha.contents
  · intro t d f ht hf
    exact hasElement_setElement.mpr (ha.element ht hf)
  · intro f d g hf hg
    rw [element?_setElement hin] at hf
    split at hf
    next heq =>
      cases hf
      cases hg
      rw [heq]
      exact ha.enclosing he rfl
    next => exact ha.enclosing hf hg
  · intro f d s hf hs
    rw [element?_setElement hin] at hf
    split at hf
    next =>
      cases hf
      cases hs
      exact hb
    next => exact ha.bound hf hs

end SetBound

theorem Step.closed (h : Step a b) (ha : a.Closed) : b.Closed := by
  cases h with
  | creates h => exact h.grows.closed ha
  | setBound ht h => exact ha.setBound ht h
  | setConvention => exact ⟨ha.contents, ha.element, ha.enclosing, ha.bound⟩

theorem closed_empty (convention : Convention) : (empty convention).Closed :=
  ⟨nofun, nofun, nofun, nofun⟩

theorem closed_of_steps (h : Relation.ReflTransGen Step a b) (ha : a.Closed) : b.Closed := by
  induction h with
  | refl => exact ha
  | tail _ hs ih => exact hs.closed ih

theorem Reachable.closed (h : a.Reachable) : a.Closed := by
  obtain ⟨convention, h⟩ := h
  exact closed_of_steps h (closed_empty convention)

theorem Reachable.steps (ha : a.Reachable) (h : Relation.ReflTransGen Step a b) : b.Reachable := by
  obtain ⟨convention, ha⟩ := ha
  exact ⟨convention, ha.trans h⟩

theorem Reachable.after {α : Type} (ha : a.Reachable) (act : StateM Arena α)
    (h : ∀ x b, Makes act a x b → Creates a b) : (act.run a).2.Reachable :=
  ha.steps (.single (.creates (h _ _ rfl)))

def mapSession : Arena := ((classElement "java.util" ["Map"]).run (empty .wrap)).2

theorem mapSession_reachable : mapSession.Reachable :=
  ⟨.wrap, .single (.creates (.classElement rfl))⟩

theorem mapSession_hasElement : mapSession.HasElement ⟨1⟩ := by
  have h : mapSession.element? ⟨1⟩ = some (.type "Map" ⟨0⟩) := by decide +kernel
  exact hasElement_of_element? h

end JavaTypes.Arena
