import JavaTypes.NameError
import JavaTypes.Model.Kind

namespace JavaTypes

inductive InputFault where
  | arrayTypeWithoutComponent
  | declaredTypeWithoutElement
  | variableWithoutElement
  | variableWithoutBound (name : String)
  | localClass (name : String)
  | tooFewBounds (count : Nat)
  | arrayClassWithoutComponent (name : String)
  | unnamedClass
  deriving DecidableEq, Repr

def InputFault.message : InputFault → String
  | arrayTypeWithoutComponent => "array type has no component type"
  | declaredTypeWithoutElement => "declared type has no element"
  | variableWithoutElement => "type variable has no declaring element"
  | variableWithoutBound name => "type variable `" ++ name ++ "` has no upper bound"
  | localClass name => "`" ++ name ++ "` is a local or anonymous class and has no canonical name"
  | tooFewBounds count => (NameError.tooFewBounds count).message
  | arrayClassWithoutComponent name => "array class `" ++ name ++ "` has no component type"
  | unnamedClass => "class reference has no name"

inductive ConversionError where
  | invalidInput (fault : InputFault)
  | unsupported (kind : TypeKind)
  | refused (e : NameError)
  deriving DecidableEq, Repr

def ConversionError.message : ConversionError → String
  | invalidInput fault => "invalid input: " ++ fault.message
  | unsupported kind => "unsupported type kind: " ++ kind.text
  | refused e => e.message

end JavaTypes
