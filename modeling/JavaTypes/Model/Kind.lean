import JavaTypes.Primitive

namespace JavaTypes

inductive TypeKind where
  | primitive (p : Primitive)
  | void | null | array | declared | typeVariable | intersection | wildcard | union | executable
  | package | module | error | none
  deriving DecidableEq, Repr

def TypeKind.text : TypeKind → String
  | primitive p => "primitive `" ++ p.keyword ++ "`"
  | void => "void"
  | null => "null"
  | array => "array"
  | declared => "declared"
  | typeVariable => "type variable"
  | intersection => "intersection"
  | wildcard => "wildcard"
  | union => "union"
  | executable => "executable"
  | package => "package"
  | module => "module"
  | error => "error"
  | none => "none"

inductive ElementKind where
  | package | type | typeParameter | other
  deriving DecidableEq, Repr

/-- What `T extends A & B` gives the variable: the bounds `A` and `B`, or their intersection as the
only bound. -/
inductive Convention where
  | flatten | wrap
  deriving DecidableEq, Repr

namespace Convention

def keyword : Convention → String
  | flatten => "flatten"
  | wrap => "wrap"

def ofKeyword? : String → Option Convention
  | "flatten" => some flatten
  | "wrap" => some wrap
  | _ => none

def label : Convention → String
  | flatten => "Flatten"
  | wrap => "Wrap"

def forRelease (release : Nat) : Convention := if release < 8 then flatten else wrap

end Convention

end JavaTypes
