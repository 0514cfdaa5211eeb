namespace JavaTypes

inductive NameFault where
  | emptyName
  | emptySegment
  | noCapitalizedSegment
  | packageSegment
  | emptySimpleName
  | classSegment
  deriving DecidableEq, Repr

def NameFault.reason : NameFault → String
  | emptyName => "name is empty"
  | emptySegment => "empty name segment"
  | noCapitalizedSegment => "no capitalized class segment"
  | packageSegment => "package segments must be identifiers"
  | emptySimpleName => "simple name is empty"
  | classSegment => "class names must be identifiers"

inductive NameError where
  | malformed (name : String) (fault : NameFault)
  | noArguments (raw : String)
  | tooFewBounds (count : Nat)
  deriving DecidableEq, Repr

namespace NameError

def message : NameError → String
  | malformed name fault => "malformed name `" ++ name ++ "`: " ++ fault.reason
  | noArguments raw => "parameterized type `" ++ raw ++ "` has no type arguments"
  | tooFewBounds count => "intersection type needs at least two bounds, got " ++ Nat.repr count

def spelled (name : String) : NameError → NameError
  | malformed _ fault => malformed name fault
  | e => e

end NameError

end JavaTypes
