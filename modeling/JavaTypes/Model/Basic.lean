import JavaTypes.Model.Kind

namespace JavaTypes

/-- Two element handles are equal exactly when they stand for the same declaration. -/
structure TypeModel (T E : Type) where
  kind : T → TypeKind
  component? : T → Option T
  element? : T → Option E
  arguments : T → List T
  upperBound? : T → Option T
  parts : T → List T
  elementKind : E → ElementKind
  /-- The simple name of a type or type parameter, the full name of a package. -/
  elementName : E → String
  enclosing? : E → Option E
  convention : Convention

end JavaTypes
