import Mathlib.Logic.Relation
import JavaTypes.Model.Convert

namespace JavaTypes.TypeModel

variable {T E : Type} (m : TypeModel T E)

inductive Inside : T → T → Prop
  | component {s t : T} (k : m.kind t = .array) (h : m.component? t = some s) : Inside s t
  | argument {s t : T} (k : m.kind t = .declared) (h : s ∈ m.arguments t) : Inside s t
  | part {s t : T} (k : m.kind t = .intersection) (h : s ∈ m.parts t) : Inside s t

def Encloses (e f : E) : Prop := m.enclosing? f = some e

def HasName (e : E) (r : Except ConversionError ClassName) : Prop :=
  ∃ n, m.className n e = r.mapError .failed

def HasClass (t : T) (c : ClassName) : Prop :=
  m.kind t = .declared ∧ ∃ e, m.element? t = some e ∧ m.HasName e (.ok c)

def IsObject (t : T) : Prop :=
  m.kind t = .declared ∧ m.arguments t = [] ∧
    ∃ e, m.element? t = some e ∧ m.HasName e (.ok .object)

inductive Surrounded : E → String → List String → Prop
  | alone {e : E} (h : m.enclosing? e = none) : Surrounded e "" []
  | package {e f : E} (h : m.Encloses f e) (k : m.elementKind f = .package) :
      Surrounded e (m.elementName f) []
  | type {e f : E} {package : String} {outer : List String} (h : m.Encloses f e)
      (k : m.elementKind f = .type) (hf : Surrounded f package outer) :
      Surrounded e package (outer ++ [m.elementName f])

/-- Every step from a type to one that it is made of, the bounds of variables included. -/
inductive Leads : T → T → Prop
  | inside {s t : T} (h : m.Inside s t) : Leads t s
  | bound {s t : T} (k : m.kind t = .typeVariable) (h : m.upperBound? t = some s) : Leads t s

def Grounded (t : T) : Prop := Acc (fun s t => m.Leads t s) t

/-- The bound `java.lang.Object` is not visited. -/
inductive Visits : T → T → Prop
  | inside {s t : T} (h : m.Inside s t) : Visits t s
  | bound {s t : T} (k : m.kind t = .typeVariable) (h : m.upperBound? t = some s)
      (o : ¬ m.IsObject s) : Visits t s

def Reaches : T → T → Prop := Relation.ReflTransGen m.Visits

def Declares (e : E) : Prop := ∃ t, m.kind t = .typeVariable ∧ m.element? t = some e

def Coherent : Prop :=
  ∀ s t e, m.kind s = .typeVariable → m.kind t = .typeVariable → m.element? s = some e →
    m.element? t = some e → m.upperBound? s = m.upperBound? t

/-- What a type must report of itself to have a type name, the types inside it left aside. -/
def WellFormed (t : T) : Prop :=
  match m.kind t with
  | .primitive _ | .void | .null => True
  | .array => (m.component? t).isSome
  | .declared => ∃ e package outer c, m.element? t = some e ∧ m.Surrounded e package outer ∧
      ClassName.new package outer (m.elementName e) = .ok c
  | .typeVariable => (m.element? t).isSome ∧ (m.upperBound? t).isSome
  | .intersection => 2 ≤ (m.parts t).length
  | _ => False

end JavaTypes.TypeModel
