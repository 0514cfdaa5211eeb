import JavaTypes.Json.Basic
import JavaTypes.ClassName.Basic

namespace JavaTypes.ClassName

def toJson (c : ClassName) : Json :=
  .obj [("package_name", .str c.packageName),
    ("enclosing_simple_names", .arr (c.enclosing.map .str)),
    ("simple_name", .str c.simpleName)]

def ofParts (package enclosing simpleName : Json) : Except DecodeError ClassName := do
  let package ← package.text
  let enclosing ← enclosing.texts
  let simpleName ← simpleName.text
  (new package enclosing simpleName).mapError .refused

def ofJson : Json → Except DecodeError ClassName
  | .obj members =>
    match members.lookup "package_name", members.lookup "simple_name" with
    | some package, some simpleName =>
      ofParts package ((members.lookup "enclosing_simple_names").getD (.arr [])) simpleName
    | _, _ => .error .form
  | .arr [package, enclosing, simpleName] => ofParts package enclosing simpleName
  | _ => .error .form

end JavaTypes.ClassName
