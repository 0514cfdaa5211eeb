import JavaTypes.ClassName.Known
import JavaTypes.ConversionError
import JavaTypes.Event
import JavaTypes.Model.Basic
import JavaTypes.Model.Memo

/-!
Type names of the types in a model. A type variable is put into the memo before its bound is
converted, so a bound that leads back to the variable finds it there, without bounds. Conversion is
defined by recursion on an allowance of nested calls; a finite model in which no type lies inside
itself has an allowance that is never exhausted.
-/

namespace JavaTypes

inductive Halt where
  /-- The allowance was too small to tell. -/
  | exhausted
  | failed (e : ConversionError)
  deriving DecidableEq, Repr

structure Progress (E : Type) where
  memo : Memo E
  /-- The events so far, the latest first. -/
  log : List Event

def Progress.start {E : Type} : Progress E := ⟨[], []⟩

abbrev Conversion (E : Type) := ExceptT Halt (StateM (Progress E))

namespace Conversion

variable {E : Type}

def invalid {α : Type} (fault : InputFault) : Conversion E α :=
  throw (.failed (.invalidInput fault))

def emit (event : Event) : Conversion E Unit :=
  modify fun p => { p with log := event :: p.log }

variable [DecidableEq E]

def known? (e : E) : Conversion E (Option TypeVariable) := do
  return (← get).memo.get? e

def remember (e : E) (v : TypeVariable) : Conversion E Unit :=
  modify fun p => { p with memo := p.memo.put e v }

def forget (e : E) : Conversion E Unit :=
  modify fun p => { p with memo := p.memo.erase e }

end Conversion

namespace TypeModel

open Conversion

variable {T E : Type} (m : TypeModel T E)

/-- The package and the classes around a class, outermost first, found by walking outwards from
`e?`. A class inside anything but classes and a package is local; `own` is its name. -/
def surroundings (own : String) : Nat → Option E → Except Halt (String × List String)
  | 0, _ => .error .exhausted
  | _ + 1, none => .ok ("", [])
  | n + 1, some e =>
    match m.elementKind e with
    | .package => .ok (m.elementName e, [])
    | .type => do
      let (package, outer) ← surroundings own n (m.enclosing? e)
      .ok (package, outer ++ [m.elementName e])
    | .typeParameter | .other => .error (.failed (.invalidInput (.localClass own)))

def className (n : Nat) (e : E) : Except Halt ClassName := do
  let own := m.elementName e
  let (package, outer) ← surroundings m own n (m.enclosing? e)
  (ClassName.new package outer own).mapError fun fault => .failed (.refused fault)

def isObject (n : Nat) (t : T) : Except Halt Bool :=
  if !(m.arguments t).isEmpty then .ok false
  else match m.element? t with
    | none => .ok false
    | some e => (m.className n e).map (· == .object)

section

variable [DecidableEq E] (convention : Convention) (n : Nat) (inner : T → Conversion E TypeName)

def declared (t : T) : Conversion E TypeName := do
  match m.element? t with
  | none => invalid .declaredTypeWithoutElement
  | some e =>
    let raw ← ofExcept (m.className n e)
    match m.arguments t with
    | [] => return .named raw
    | arguments => return .parameterized raw (← arguments.mapM inner)

def intersectionParts (t : T) : Conversion E (List TypeName) := do
  let parts ← (m.parts t).mapM inner
  if parts.length < 2 then invalid (.tooFewBounds parts.length) else return parts

/-- The bounds of the type variable `t`. The bound `java.lang.Object` counts as none. -/
def bounds (name : String) (t : T) : Conversion E (List TypeName) := do
  match m.upperBound? t with
  | none => invalid (.variableWithoutBound name)
  | some bound =>
    match m.kind bound with
    | .intersection =>
      let parts ← m.intersectionParts inner bound
      match convention with
      | .flatten => return parts
      | .wrap => return [.intersection parts]
    | .declared =>
      if ← ofExcept (m.isObject n bound) then return [] else return [← inner bound]
    | _ => return [← inner bound]

def typeVariable (t : T) : Conversion E TypeVariable := do
  match m.element? t with
  | none => invalid .variableWithoutElement
  | some e =>
    match ← known? e with
    | some v =>
      emit (.reused v.name)
      return v
    | none =>
      let name := m.elementName e
      remember e (.unbounded name)
      let bounds ← try m.bounds convention n inner name t catch halt =>
        forget e
        throw halt
      remember e ⟨name, bounds⟩
      return ⟨name, bounds⟩

def convertStep (t : T) : Conversion E TypeName := do
  emit (.converting (m.kind t))
  match m.kind t with
  | .primitive p => return .primitive p
  | .void => return .void
  | .null => return .null
  | .array =>
    match m.component? t with
    | none => invalid .arrayTypeWithoutComponent
    | some component => return .array (← inner component)
  | .declared => m.declared n inner t
  | .typeVariable => return (← m.typeVariable convention n inner t).typeName
  | .intersection => return .intersection (← m.intersectionParts inner t)
  | kind => throw (.failed (.unsupported kind))

end

def convert [DecidableEq E] (convention : Convention) : Nat → T → Conversion E TypeName
  | 0, _ => throw .exhausted
  | n + 1, t => m.convertStep convention n (convert convention n) t

end TypeModel

end JavaTypes
