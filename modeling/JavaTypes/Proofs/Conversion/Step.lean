import JavaTypes.Model.Reach
import JavaTypes.Proofs.Conversion.Outcome

/-!
What one step of a conversion can do, as relations over what the names of elements are (`N`), what
the types inside yield (`R`) and how they fail (`F`). That these relations are all that there is to
a step is `yields_convertStep` and `fails_convertStep`.
-/

namespace JavaTypes

def TypeKind.isSupported : TypeKind → Bool
  | primitive _ | void | null | array | declared | typeVariable | intersection => true
  | _ => false

def Convention.bounds : Convention → List TypeName → List TypeName
  | flatten, parts => parts
  | wrap, parts => [.intersection parts]

namespace TypeModel

variable {T E : Type} (m : TypeModel T E)

def NameAt (n : Nat) (e : E) (r : Except ConversionError ClassName) : Prop :=
  m.className n e = r.mapError .failed

variable {m} in
theorem nameAt_ok {n : Nat} {e : E} {c : ClassName} :
    m.NameAt n e (.ok c) ↔ m.className n e = .ok c := Iff.rfl

variable {m} in
theorem nameAt_error {n : Nat} {e : E} {err : ConversionError} :
    m.NameAt n e (.error err) ↔ m.className n e = .error (.failed err) := Iff.rfl

section

variable (N : E → Except ConversionError ClassName → Prop)

inductive Leaf : T → TypeName → Prop
  | primitive {t p} (k : m.kind t = .primitive p) : Leaf t (.primitive p)
  | void {t} (k : m.kind t = .void) : Leaf t .void
  | null {t} (k : m.kind t = .null) : Leaf t .null
  | named {t e c} (k : m.kind t = .declared) (h : m.element? t = some e) (hc : N e (.ok c))
      (ha : m.arguments t = []) : Leaf t (.named c)

inductive Fault : T → ConversionError → Prop
  | unsupported {t} (k : (m.kind t).isSupported = false) : Fault t (.unsupported (m.kind t))
  | noComponent {t} (k : m.kind t = .array) (h : m.component? t = none) :
      Fault t (.invalidInput .arrayTypeWithoutComponent)
  | noElement {t} (k : m.kind t = .declared) (h : m.element? t = none) :
      Fault t (.invalidInput .declaredTypeWithoutElement)
  | className {t e err} (k : m.kind t = .declared) (h : m.element? t = some e)
      (hc : N e (.error err)) : Fault t err
  | noVariable {t} (k : m.kind t = .typeVariable) (h : m.element? t = none) :
      Fault t (.invalidInput .variableWithoutElement)

/-- The bound that counts as none. -/
def ObjectBound (b : T) : Prop :=
  m.kind b = .declared ∧ m.arguments b = [] ∧ ∃ e, m.element? b = some e ∧ N e (.ok .object)

def PlainBound (b : T) : Prop :=
  m.kind b ≠ .intersection ∧ (m.kind b = .declared → m.arguments b = [] →
    ∀ e, m.element? b = some e → ∃ c, N e (.ok c) ∧ c ≠ .object)

def UnnamedBound (b : T) (err : ConversionError) : Prop :=
  m.kind b = .declared ∧ m.arguments b = [] ∧ ∃ e, m.element? b = some e ∧ N e (.error err)

end

section

variable (R : T → Progress E → TypeName → Progress E → Prop)
  (F : T → Progress E → ConversionError → Progress E → Prop)

def PartsStep (t : T) (p : Progress E) (as : List TypeName) (q : Progress E) : Prop :=
  Each R (m.parts t) p as q ∧ 2 ≤ as.length

inductive PartsFailure : T → Progress E → ConversionError → Progress E → Prop
  | part {t p err q} (h : Halts R F (m.parts t) p err q) : PartsFailure t p err q
  | tooFew {t p as q} (h : Each R (m.parts t) p as q) (ha : as.length < 2) :
      PartsFailure t p (.invalidInput (.tooFewBounds as.length)) q

variable (N : E → Except ConversionError ClassName → Prop) (convention : Convention)

inductive BoundsStep : T → Progress E → List TypeName → Progress E → Prop
  | object {t b p} (h : m.upperBound? t = some b) (hb : m.ObjectBound N b) : BoundsStep t p [] p
  | parts {t b p as q} (h : m.upperBound? t = some b) (k : m.kind b = .intersection)
      (hs : m.PartsStep R b p as q) : BoundsStep t p (convention.bounds as) q
  | plain {t b p a q} (h : m.upperBound? t = some b) (hb : m.PlainBound N b) (hs : R b p a q) :
      BoundsStep t p [a] q

inductive BoundsFailure (name : String) : T → Progress E → ConversionError → Progress E → Prop
  | noBound {t p} (h : m.upperBound? t = none) :
      BoundsFailure name t p (.invalidInput (.variableWithoutBound name)) p
  | unnamed {t b p err} (h : m.upperBound? t = some b) (hb : m.UnnamedBound N b err) :
      BoundsFailure name t p err p
  | parts {t b p err q} (h : m.upperBound? t = some b) (k : m.kind b = .intersection)
      (hs : m.PartsFailure R F b p err q) : BoundsFailure name t p err q
  | plain {t b p err q} (h : m.upperBound? t = some b) (hb : m.PlainBound N b)
      (hs : F b p err q) : BoundsFailure name t p err q

variable [DecidableEq E]

inductive Step : T → Progress E → TypeName → Progress E → Prop
  | leaf {t a p} (h : m.Leaf N t a) : Step t p a (p.met (m.kind t))
  | array {t s p a q} (k : m.kind t = .array) (h : m.component? t = some s)
      (hs : R s (p.met (m.kind t)) a q) : Step t p (.array a) q
  | applied {t e c p as q} (k : m.kind t = .declared) (h : m.element? t = some e)
      (hc : N e (.ok c)) (ha : m.arguments t ≠ [])
      (hs : Each R (m.arguments t) (p.met (m.kind t)) as q) : Step t p (.parameterized c as) q
  | parts {t p as q} (k : m.kind t = .intersection)
      (hs : m.PartsStep R t (p.met (m.kind t)) as q) : Step t p (.intersection as) q
  | known {t e v p} (k : m.kind t = .typeVariable) (h : m.element? t = some e)
      (hv : p.memo.get? e = some v) :
      Step t p v.typeName ((p.met (m.kind t)).emit (.reused v.name))
  | fresh {t e p as q} (k : m.kind t = .typeVariable) (h : m.element? t = some e)
      (hv : p.memo.get? e = none)
      (hs : m.BoundsStep R N convention t
        ((p.met (m.kind t)).remember e (.unbounded (m.elementName e))) as q) :
      Step t p (.typeVariable (m.elementName e) as) (q.remember e ⟨m.elementName e, as⟩)

inductive Failure : T → Progress E → ConversionError → Progress E → Prop
  | fault {t err p} (h : m.Fault N t err) : Failure t p err (p.met (m.kind t))
  | array {t s p err q} (k : m.kind t = .array) (h : m.component? t = some s)
      (hs : F s (p.met (m.kind t)) err q) : Failure t p err q
  | applied {t e c p err q} (k : m.kind t = .declared) (h : m.element? t = some e)
      (hc : N e (.ok c)) (ha : m.arguments t ≠ [])
      (hs : Halts R F (m.arguments t) (p.met (m.kind t)) err q) : Failure t p err q
  | parts {t p err q} (k : m.kind t = .intersection)
      (hs : m.PartsFailure R F t (p.met (m.kind t)) err q) : Failure t p err q
  | fresh {t e p err q} (k : m.kind t = .typeVariable) (h : m.element? t = some e)
      (hv : p.memo.get? e = none)
      (hs : m.BoundsFailure R F N (m.elementName e) t
        ((p.met (m.kind t)).remember e (.unbounded (m.elementName e))) err q) :
      Failure t p err (q.forget e)

end

section Variable

variable {m} {N : E → Except ConversionError ClassName → Prop} {convention : Convention}
  {R : T → Progress E → TypeName → Progress E → Prop}
  {F : T → Progress E → ConversionError → Progress E → Prop} {t : T} {e : E} {p q : Progress E}

theorem Leaf.kind_ne {a : TypeName} (h : m.Leaf N t a) : m.kind t ≠ .typeVariable := by
  cases h with
  | primitive k | void k | null k | named k =>
    simp [k]

variable [DecidableEq E]

theorem Step.kind_eq_intersection_iff {a : TypeName} (h : m.Step R N convention t p a q) :
    m.kind t = .intersection ↔ ∃ as, a = .intersection as := by
  cases h with
  | leaf h =>
    cases h with
    | primitive k | void k | null k | named k => simp [k]
  | array k | applied k | fresh k => simp [k]
  | known k => simp [k, TypeVariable.typeName]
  | parts k => simp [k]

def entered (m : TypeModel T E) (t : T) (e : E) (p : Progress E) : Progress E :=
  (p.met (m.kind t)).remember e (.unbounded (m.elementName e))

theorem Step.variable_cases {a : TypeName} (h : m.Step R N convention t p a q)
    (k : m.kind t = .typeVariable) (he : m.element? t = some e) :
    (∃ v, p.memo.get? e = some v ∧ a = v.typeName ∧ q.memo = p.memo) ∨
      p.memo.get? e = none ∧ ∃ as r, m.BoundsStep R N convention t (m.entered t e p) as r ∧
        a = .typeVariable (m.elementName e) as ∧ q = r.remember e ⟨m.elementName e, as⟩ := by
  cases h with
  | leaf hl => exact absurd k hl.kind_ne
  | known _ hf hv =>
    cases he.symm.trans hf
    exact .inl ⟨_, hv, rfl, rfl⟩
  | fresh _ hf hv hs =>
    cases he.symm.trans hf
    exact .inr ⟨hv, _, _, hs, rfl, rfl⟩
  | array kt | applied kt | parts kt => cases k.symm.trans kt

theorem Failure.variable_cases {err : ConversionError} (h : m.Failure R F N t p err q)
    (k : m.kind t = .typeVariable) (he : m.element? t = some e) :
    p.memo.get? e = none ∧ ∃ r,
      m.BoundsFailure R F N (m.elementName e) t (m.entered t e p) err r ∧ q = r.forget e := by
  cases h with
  | fault hf => cases hf <;> simp_all [TypeKind.isSupported]
  | fresh _ hf hv hs =>
    cases he.symm.trans hf
    exact ⟨hv, _, hs, rfl⟩
  | array kt | applied kt | parts kt => cases k.symm.trans kt

end Variable

end TypeModel

end JavaTypes
