import Mathlib.Logic.Relation
import JavaTypes.Model.Arena

namespace JavaTypes

namespace Arena

def HasElement (a : Arena) (e : ElementId) : Prop := e.index < a.elements.size

def HasType (a : Arena) (t : TypeId) : Prop := t.index < a.types.size

instance (a : Arena) (e : ElementId) : Decidable (a.HasElement e) :=
  inferInstanceAs (Decidable (_ < _))

instance (a : Arena) (t : TypeId) : Decidable (a.HasType t) := inferInstanceAs (Decidable (_ < _))

end Arena

namespace ElementData

def bound? : ElementData → Option TypeId
  | typeParameter _ _ bound => some bound
  | _ => none

def Fits (a : Arena) (d : ElementData) : Prop :=
  (∀ e, d.enclosing? = some e → a.HasElement e) ∧ ∀ t, d.bound? = some t → a.HasType t

/-- A package, or a class that is not declared inside a method, has one element for its name. -/
def Shared (a : Arena) : ElementData → Prop
  | package _ => True
  | type _ e => ∀ method owner, a.element? e ≠ some (.method method owner)
  | _ => False

end ElementData

namespace TypeData

def contents : TypeData → List TypeId
  | array component => [component]
  | declared _ arguments => arguments
  | intersection parts => parts
  | _ => []

def Fits (a : Arena) (d : TypeData) : Prop :=
  (∀ t ∈ d.contents, a.HasType t) ∧ ∀ e, d.element? = some e → a.HasElement e

end TypeData

namespace Arena

variable {α β : Type} {a b c : Arena} {e : ElementId} {t : TypeId}

theorem hasElement_of_element? {d : ElementData} (h : a.element? e = some d) : a.HasElement e :=
  (Array.getElem?_eq_some_iff.mp h).1

theorem hasType_of_type? {d : TypeData} (h : a.type? t = some d) : a.HasType t :=
  (Array.getElem?_eq_some_iff.mp h).1

theorem HasElement.exists_element? (h : a.HasElement e) : ∃ d, a.element? e = some d :=
  ⟨_, Array.getElem?_eq_getElem h⟩

theorem HasType.exists_type? (h : a.HasType t) : ∃ d, a.type? t = some d :=
  ⟨_, Array.getElem?_eq_getElem h⟩

/-- Types are made of earlier types and elements lie inside earlier elements. Bounds may lead
anywhere within the arena. -/
structure Closed (a : Arena) : Prop where
  contents {t d} : a.type? t = some d → ∀ s ∈ d.contents, s.index < t.index
  element {t d e} : a.type? t = some d → d.element? = some e → a.HasElement e
  enclosing {e d f} : a.element? e = some d → d.enclosing? = some f → f.index < e.index
  bound {e d t} : a.element? e = some d → d.bound? = some t → a.HasType t

structure Extends (b a : Arena) : Prop where
  element {e d} : a.element? e = some d → b.element? e = some d
  type {t d} : a.type? t = some d → b.type? t = some d
  convention : b.convention = a.convention

namespace Extends

theorem refl (a : Arena) : a.Extends a := ⟨id, id, rfl⟩

theorem trans (h : c.Extends b) (h' : b.Extends a) : c.Extends a where
  element he := h.element (h'.element he)
  type ht := h.type (h'.type ht)
  convention := h.convention.trans h'.convention

theorem hasElement (h : b.Extends a) (he : a.HasElement e) : b.HasElement e := by
  obtain ⟨d, hd⟩ := he.exists_element?
  exact hasElement_of_element? (h.element hd)

theorem hasType (h : b.Extends a) (ht : a.HasType t) : b.HasType t := by
  obtain ⟨d, hd⟩ := ht.exists_type?
  exact hasType_of_type? (h.type hd)

end Extends

def pushElement (a : Arena) (d : ElementData) : Arena := { a with elements := a.elements.push d }

def pushType (a : Arena) (d : TypeData) : Arena := { a with types := a.types.push d }

section Push

variable {d : ElementData} {x : TypeData}

theorem element?_pushElement : (a.pushElement d).element? e =
    if e.index = a.elements.size then some d else a.element? e :=
  Array.getElem?_push

@[simp] theorem element?_pushElement_self :
    (a.pushElement d).element? ⟨a.elements.size⟩ = some d := by
  rw [element?_pushElement, if_pos rfl]

theorem type?_pushType : (a.pushType x).type? t =
    if t.index = a.types.size then some x else a.type? t :=
  Array.getElem?_push

@[simp] theorem type?_pushType_self : (a.pushType x).type? ⟨a.types.size⟩ = some x := by
  rw [type?_pushType, if_pos rfl]

theorem pushElement_extends (a : Arena) (d : ElementData) : (a.pushElement d).Extends a where
  element {e} _ he := by
    have hlt := hasElement_of_element? he
    rw [element?_pushElement, if_neg (Nat.ne_of_lt hlt), he]
  type ht := ht
  convention := rfl

theorem pushType_extends (a : Arena) (x : TypeData) : (a.pushType x).Extends a where
  element he := he
  type {t} _ ht := by
    have hlt := hasType_of_type? ht
    rw [type?_pushType, if_neg (Nat.ne_of_lt hlt), ht]
  convention := rfl

theorem Closed.pushElement (h : a.Closed) (hd : d.Fits a) : (a.pushElement d).Closed where
  contents ht := h.contents ht
  element ht he := (pushElement_extends a d).hasElement (h.element ht he)
  enclosing {e} _ f he hf := by
    rw [element?_pushElement] at he
    split at he
    next hi =>
      cases he
      have hlt : f.index < a.elements.size := hd.1 f hf
      omega
    next => exact h.enclosing he hf
  bound {e _ t} he ht := by
    rw [element?_pushElement] at he
    split at he
    next hi =>
      cases he
      exact hd.2 t ht
    next => exact h.bound he ht

theorem Closed.pushType (h : a.Closed) (hx : x.Fits a) : (a.pushType x).Closed where
  contents {t} _ ht s hs := by
    rw [type?_pushType] at ht
    split at ht
    next hi =>
      cases ht
      have hlt : s.index < a.types.size := hx.1 s hs
      omega
    next => exact h.contents ht s hs
  element {t _ e} ht he := by
    rw [type?_pushType] at ht
    split at ht
    next hi =>
      cases ht
      exact hx.2 e he
    next => exact h.element ht he
  enclosing he hf := h.enclosing he hf
  bound he ht := (pushType_extends a x).hasType (h.bound he ht)

end Push

inductive Adds (a : Arena) : Arena → Prop
  | element {d} (h : d.Fits a) (hn : d.Shared a → ∀ e, a.element? e ≠ some d) :
      Adds a (a.pushElement d)
  | type {d} (h : d.Fits a) : Adds a (a.pushType d)

def Grows : Arena → Arena → Prop := Relation.ReflTransGen Adds

theorem Grows.extends (h : Grows a b) : b.Extends a := by
  induction h with
  | refl => exact .refl a
  | tail _ hb ih =>
    cases hb with
    | element => exact (pushElement_extends _ _).trans ih
    | type => exact (pushType_extends _ _).trans ih

theorem Grows.closed (h : Grows a b) (ha : a.Closed) : b.Closed := by
  induction h with
  | refl => exact ha
  | tail _ hb ih =>
    cases hb with
    | element hd => exact ih.pushElement hd
    | type hd => exact ih.pushType hd

def Makes (act : StateM Arena α) (a : Arena) (x : α) (b : Arena) : Prop := act.run a = (x, b)

@[simp] theorem makes_pure {x y : α} : Makes (pure x) a y b ↔ y = x ∧ b = a := by
  change (x, a) = (y, b) ↔ _
  rw [Prod.mk.injEq, eq_comm (a := x), eq_comm (a := a)]

@[simp] theorem makes_bind {act : StateM Arena α} {f : α → StateM Arena β} {y : β} :
    Makes (act >>= f) a y b ↔ ∃ x c, Makes act a x c ∧ Makes (f x) c y b := by
  change (f (act.run a).1).run (act.run a).2 = _ ↔ _
  constructor
  · intro h
    exact ⟨_, _, rfl, h⟩
  · rintro ⟨x, c, h, hf⟩
    rw [h]
    exact hf

@[simp] theorem makes_addElement {d : ElementData} :
    Makes (addElement d) a e b ↔ e = ⟨a.elements.size⟩ ∧ b = a.pushElement d := by
  change (ElementId.mk _, a.pushElement d) = (e, b) ↔ _
  rw [Prod.mk.injEq, eq_comm (b := e), eq_comm (b := b)]

@[simp] theorem makes_addType {d : TypeData} :
    Makes (addType d) a t b ↔ t = ⟨a.types.size⟩ ∧ b = a.pushType d := by
  change (TypeId.mk _, a.pushType d) = (t, b) ↔ _
  rw [Prod.mk.injEq, eq_comm (b := t), eq_comm (b := b)]

theorem exists_makes (act : StateM Arena α) (a : Arena) : ∃ x b, Makes act a x b := ⟨_, _, rfl⟩

theorem grows_addElement {d : ElementData} (h : Makes (addElement d) a e b) (hd : d.Fits a)
    (hn : d.Shared a → ∀ e, a.element? e ≠ some d) : Grows a b ∧ b.element? e = some d := by
  obtain ⟨rfl, rfl⟩ := makes_addElement.mp h
  exact ⟨.single (.element hd hn), element?_pushElement_self⟩

theorem grows_addType {d : TypeData} (h : Makes (addType d) a t b) (hd : d.Fits a) :
    Grows a b ∧ b.type? t = some d := by
  obtain ⟨rfl, rfl⟩ := makes_addType.mp h
  exact ⟨.single (.type hd), type?_pushType_self⟩

theorem makes_share {d : ElementData} (h : Makes (share d) a e b) :
    (b = a ∧ a.element? e = some d) ∨
      (∀ f, a.element? f ≠ some d) ∧ Makes (addElement d) a e b := by
  change share d a = (e, b) at h
  unfold share at h
  split at h
  next i hi =>
    cases h
    obtain ⟨hlt, hp, -⟩ := Array.findIdx?_eq_some_iff_getElem.mp hi
    have hd : a.elements[i] = d := by simpa using hp
    exact .inl ⟨rfl, Array.getElem?_eq_some_iff.mpr ⟨hlt, hd⟩⟩
  next hi =>
    refine .inr ⟨fun f hf => ?_, h⟩
    have hm : d ∈ a.elements := Array.mem_of_getElem? hf
    simpa using Array.findIdx?_eq_none_iff.mp hi d hm

theorem grows_share {d : ElementData} (h : Makes (share d) a e b) (hd : d.Fits a) :
    Grows a b ∧ b.element? e = some d := by
  obtain ⟨rfl, he⟩ | ⟨hn, h⟩ := makes_share h
  · exact ⟨.refl, he⟩
  · exact grows_addElement h hd fun _ => hn

end Arena

end JavaTypes
