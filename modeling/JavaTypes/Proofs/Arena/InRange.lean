import JavaTypes.Proofs.Arena.Frame
import JavaTypes.Proofs.Arena.Session

/-!
Conversion over handles that carry the proof that the arena has them, so that every look-up is an
access within bounds. The reports are those over plain handles: a conversion that starts at a handle
of the arena never asks about one that the arena does not have.
-/

namespace JavaTypes

namespace TypeData

def parameter? : TypeData → Option ElementId
  | typeVariable e => some e
  | _ => none

theorem element?_of_parameter? {d : TypeData} {e : ElementId} (h : d.parameter? = some e) :
    d.element? = some e := by
  cases d <;> cases h
  rfl

end TypeData

theorem optionRel_pmap {α : Type} {P : α → Prop} {o : Option α} (h : ∀ x, o = some x → P x) :
    Option.Rel (fun x (y : Subtype P) => x = y.val) o (o.pmap Subtype.mk h) := by
  cases o with
  | none => exact .none
  | some x => exact .some rfl

theorem forall₂_pmap {α : Type} {P : α → Prop} {l : List α} (h : ∀ x ∈ l, P x) :
    List.Forall₂ (fun x (y : Subtype P) => x = y.val) l (l.pmap Subtype.mk h) := by
  induction l with
  | nil => exact .nil
  | cons x l ih => exact .cons rfl (ih fun y hy => h y (List.mem_cons_of_mem x hy))

theorem optionRel_bind {α α' β β' : Type} {r : α → α' → Prop} {s : β → β' → Prop} {o : Option α}
    {o' : Option α'} {f : α → Option β} {g : α' → Option β'} (h : Option.Rel r o o')
    (hf : ∀ x y, r x y → Option.Rel s (f x) (g y)) : Option.Rel s (o.bind f) (o'.bind g) := by
  cases h with
  | none => exact .none
  | some h => exact hf _ _ h

namespace Arena

open TypeModel

abbrev OwnType (a : Arena) := {t : TypeId // a.HasType t}

abbrev OwnElement (a : Arena) := {e : ElementId // a.HasElement e}

variable {a : Arena}

def typeAt (t : a.OwnType) : TypeData :=
  have h : t.val.index < a.types.size := t.property
  a.types[t.val.index]

def elementAt (e : a.OwnElement) : ElementData :=
  have h : e.val.index < a.elements.size := e.property
  a.elements[e.val.index]

theorem type?_eq_typeAt (t : a.OwnType) : a.type? t.val = some (typeAt t) :=
  Array.getElem?_eq_getElem t.property

theorem element?_eq_elementAt (e : a.OwnElement) : a.element? e.val = some (elementAt e) :=
  Array.getElem?_eq_getElem e.property

namespace Closed

section Queries

variable (ha : a.Closed)
include ha

theorem hasElement_of_typeAt {t : a.OwnType} : ∀ e, (typeAt t).element? = some e → a.HasElement e :=
  fun _ => ha.element (type?_eq_typeAt t)

theorem hasType_of_contents {t : a.OwnType} : ∀ s ∈ (typeAt t).contents, a.HasType s :=
  fun _ => ha.hasType_of_mem (type?_eq_typeAt t)

theorem hasType_of_bound {e : a.OwnElement} : ∀ s, (elementAt e).bound? = some s → a.HasType s :=
  fun _ => ha.bound (element?_eq_elementAt e)

theorem hasElement_of_enclosing {e : a.OwnElement} :
    ∀ f, (elementAt e).enclosing? = some f → a.HasElement f :=
  fun _ hf => Nat.lt_trans (ha.enclosing (element?_eq_elementAt e) hf) e.property

end Queries

def ownModel (ha : a.Closed) : TypeModel a.OwnType a.OwnElement where
  kind t := (typeAt t).kind
  component? t := (typeAt t).component?.pmap Subtype.mk fun s hs =>
    ha.hasType_of_contents s (TypeData.mem_contents_of_component? hs)
  element? t := (typeAt t).element?.pmap Subtype.mk ha.hasElement_of_typeAt
  arguments t := (typeAt t).arguments.pmap Subtype.mk fun s hs =>
    ha.hasType_of_contents s ((typeAt t).arguments_subset_contents hs)
  upperBound? t :=
    ((typeAt t).parameter?.pmap Subtype.mk fun e he =>
      ha.hasElement_of_typeAt e (TypeData.element?_of_parameter? he)).bind fun e =>
        (elementAt e).bound?.pmap Subtype.mk ha.hasType_of_bound
  parts t := (typeAt t).parts.pmap Subtype.mk fun s hs =>
    ha.hasType_of_contents s ((typeAt t).parts_subset_contents hs)
  elementKind e := (elementAt e).kind
  elementName e := (elementAt e).name
  enclosing? e := (elementAt e).enclosing?.pmap Subtype.mk ha.hasElement_of_enclosing
  convention := a.convention

theorem upperBound?_eq_bind (t : a.OwnType) : a.model.upperBound? t.val =
    (typeAt t).parameter?.bind fun e => (a.element? e).bind ElementData.bound? := by
  have ht := type?_eq_typeAt t
  generalize typeAt t = d at ht
  cases d with
  | typeVariable e =>
    simp only [model, parameter?, ht, TypeData.parameter?, Option.bind_some]
    cases he : a.element? e with
    | none => rfl
    | some x => cases x <;> rfl
  | _ => simp [model, parameter?, ht, TypeData.parameter?]

theorem similar_ownModel (ha : a.Closed) : a.model.Similar ha.ownModel
    (fun s t => s = t.val) fun e f => e = f.val where
  kind := by
    rintro _ t rfl
    exact kind_of_type? (type?_eq_typeAt t)
  component := by
    rintro _ t rfl
    rw [component?_of_type? (type?_eq_typeAt t)]
    exact optionRel_pmap _
  element := by
    rintro _ t rfl
    rw [modelElement?_of_type? (type?_eq_typeAt t)]
    exact optionRel_pmap _
  arguments := by
    rintro _ t rfl
    rw [arguments_of_type? (type?_eq_typeAt t)]
    exact forall₂_pmap _
  upperBound := by
    rintro _ t rfl
    rw [upperBound?_eq_bind]
    refine optionRel_bind (optionRel_pmap _) ?_
    rintro _ e rfl
    rw [element?_eq_elementAt]
    exact optionRel_pmap _
  parts := by
    rintro _ t rfl
    rw [parts_of_type? (type?_eq_typeAt t)]
    exact forall₂_pmap _
  elementKind := by
    rintro _ e rfl
    exact elementKind_of_element? (element?_eq_elementAt e)
  elementName := by
    rintro _ e rfl
    exact elementName_of_element? (element?_eq_elementAt e)
  enclosing := by
    rintro _ e rfl
    rw [enclosing?_of_element? (element?_eq_elementAt e)]
    exact optionRel_pmap _
  one_to_one := by
    rintro _ e _ f rfl rfl _ _ _ _
    exact Subtype.ext_iff.symm

theorem ownModel_report (ha : a.Closed) (settings : Settings) (t : a.OwnType) {n : Nat}
    (hn : allowance a.types.size a.elements.size ≤ n) :
    ha.ownModel.report settings n t = a.report settings t.val := by
  have hx := ha.report_ne_exhausted settings t.val
  have hm : a.model.report settings n t.val = a.report settings t.val := report_mono hx hn
  rw [← hm] at hx ⊢
  exact ha.similar_ownModel.report_eq rfl rfl hx

end Closed

theorem exists_mapError_of_ne_exhausted {r : Except Halt TypeName} (h : r ≠ .error .exhausted) :
    ∃ x : Except ConversionError TypeName, r = x.mapError .failed := by
  cases r with
  | ok t => exact ⟨.ok t, rfl⟩
  | error halt =>
    cases halt with
    | exhausted => exact absurd rfl h
    | failed e => exact ⟨.error e, rfl⟩

theorem Reachable.converts_in_range (h : a.Reachable) :
    ∃ ha : a.Closed, ∀ (settings : Settings) (t : a.OwnType),
      (∃ r : Except ConversionError TypeName,
        (a.report settings t.val).result = r.mapError .failed) ∧
      ∀ n, allowance a.types.size a.elements.size ≤ n →
        ha.ownModel.report settings n t = a.report settings t.val := by
  refine ⟨h.closed, fun settings t => ⟨?_, fun n hn => h.closed.ownModel_report settings t hn⟩⟩
  exact exists_mapError_of_ne_exhausted (h.closed.report_ne_exhausted settings t.val)

/-- A variable `K` of `java.util.Map` and `Comparable<K>`, before the one bounds the other, and a
variable that claims `Map` for its parameter. -/
def looseSession : Arena :=
  ((do
    let _ ← typeParameter ⟨1⟩ "K"
    let _ ← classElement "java.lang" ["Comparable"]
    let _ ← declared ⟨5⟩ [⟨1⟩]
    typeVariable ⟨1⟩).run mapSession).2

theorem looseSession_reachable : looseSession.Reachable := by
  have hk := mapSession_reachable.after (typeParameter ⟨1⟩ "K") fun _ _ h =>
    .typeParameter mapSession_hasElement h
  have hc := hk.after (classElement "java.lang" ["Comparable"]) fun _ _ h => .classElement h
  have hd := hc.after (declared ⟨5⟩ [⟨1⟩]) fun _ _ h =>
    .declared (by decide +kernel) (by decide +kernel) h
  exact hd.after (typeVariable ⟨1⟩) fun _ _ h => .typeVariable (by decide +kernel) h

def knotSession : Arena := looseSession.setElement ⟨4⟩ (.typeParameter "K" ⟨1⟩ ⟨2⟩)

theorem setBound_knotSession : looseSession.setBound ⟨1⟩ ⟨2⟩ = .ok knotSession :=
  setBound_eq_ok_iff.mpr
    ⟨⟨4⟩, "K", ⟨1⟩, ⟨0⟩, by decide +kernel, by decide +kernel, rfl⟩

theorem knotSession_reachable : knotSession.Reachable :=
  looseSession_reachable.steps (.single (.setBound (by decide +kernel) setBound_knotSession))

theorem knotSession_converts :
    knotSession.Reachable ∧ ∃ ha : knotSession.Closed, ∃ (h₂ : knotSession.HasType ⟨2⟩)
      (h₃ : knotSession.HasType ⟨3⟩),
      (ha.ownModel.report .default (allowance 4 6) ⟨⟨2⟩, h₂⟩).result =
        .ok (.parameterized (.javaLang "Comparable")
          [.typeVariable "K" [.parameterized (.javaLang "Comparable") [.typeVariable "K" []]]]) ∧
      (ha.ownModel.report .default (allowance 4 6) ⟨⟨3⟩, h₃⟩).result =
        .error (.failed (.invalidInput (.variableWithoutBound "Map"))) := by
  obtain ⟨ha, h⟩ := knotSession_reachable.converts_in_range
  have hn : allowance knotSession.types.size knotSession.elements.size = allowance 4 6 := by
    decide +kernel
  refine ⟨knotSession_reachable, ha, by decide +kernel, by decide +kernel, ?_, ?_⟩
  · rw [(h .default _).2 _ (Nat.le_of_eq hn)]
    decide +kernel
  · rw [(h .default _).2 _ (Nat.le_of_eq hn)]
    decide +kernel

end Arena

end JavaTypes
