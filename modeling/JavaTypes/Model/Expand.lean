import JavaTypes.Model.Convert

/-!
Conversion without a memo: every occurrence of a type variable is expanded from its bound again.
Where no bound leads back to its own variable, this is what a type variable means.
-/

namespace JavaTypes.TypeModel

variable {T E : Type} (m : TypeModel T E)

section

variable (convention : Convention) (n : Nat) (inner : T → Except Halt TypeName)

def invalid {α : Type} (fault : InputFault) : Except Halt α :=
  .error (.failed (.invalidInput fault))

def expandDeclared (t : T) : Except Halt TypeName := do
  match m.element? t with
  | none => invalid .declaredTypeWithoutElement
  | some e =>
    let raw ← m.className n e
    match m.arguments t with
    | [] => return .named raw
    | arguments => return .parameterized raw (← arguments.mapM inner)

def expandParts (t : T) : Except Halt (List TypeName) := do
  let parts ← (m.parts t).mapM inner
  if parts.length < 2 then invalid (.tooFewBounds parts.length) else return parts

def expandBounds (name : String) (t : T) : Except Halt (List TypeName) := do
  match m.upperBound? t with
  | none => invalid (.variableWithoutBound name)
  | some bound =>
    match m.kind bound with
    | .intersection =>
      let parts ← m.expandParts inner bound
      match convention with
      | .flatten => return parts
      | .wrap => return [.intersection parts]
    | .declared => if ← m.isObject n bound then return [] else return [← inner bound]
    | _ => return [← inner bound]

def expandStep (t : T) : Except Halt TypeName := do
  match m.kind t with
  | .primitive p => return .primitive p
  | .void => return .void
  | .null => return .null
  | .array =>
    match m.component? t with
    | none => invalid .arrayTypeWithoutComponent
    | some component => return .array (← inner component)
  | .declared => m.expandDeclared n inner t
  | .typeVariable =>
    match m.element? t with
    | none => invalid .variableWithoutElement
    | some e =>
      let name := m.elementName e
      return .typeVariable name (← m.expandBounds convention n inner name t)
  | .intersection => return .intersection (← m.expandParts inner t)
  | kind => .error (.failed (.unsupported kind))

end

def expand (convention : Convention) : Nat → T → Except Halt TypeName
  | 0, _ => .error .exhausted
  | n + 1, t => m.expandStep convention n (expand convention n) t

end JavaTypes.TypeModel
