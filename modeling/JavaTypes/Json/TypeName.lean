import JavaTypes.Json.ClassName
import JavaTypes.TypeName.Basic

/-!
Type names as JSON objects with the members `kind` and `value`. What is read is wider than what is
written: a pair of a text and a value stands for the object, an array of the values for the members
of a composite, and unknown members are ignored.
-/

namespace JavaTypes

inductive Composite where
  | array | parameterized | typeVariable | intersection
  deriving DecidableEq, Repr

inductive TypeTag where
  | primitive | void | null | named
  | composite (c : Composite)
  deriving DecidableEq, Repr

def TypeTag.ofText? : String → Option TypeTag
  | "primitive" => some .primitive
  | "void" => some .void
  | "null" => some .null
  | "class" => some .named
  | "array" => some (.composite .array)
  | "parameterized" => some (.composite .parameterized)
  | "type_variable" => some (.composite .typeVariable)
  | "intersection" => some (.composite .intersection)
  | _ => none

def TypeTag.ofText (s : String) : Except DecodeError TypeTag := (ofText? s).elim (.error .form) .ok

def TypeTag.bare : TypeTag → Except DecodeError TypeName
  | .void => .ok .void
  | .null => .ok .null
  | _ => .error .form

def Primitive.ofJson (j : Json) : Except DecodeError Primitive := do
  (ofKeyword? (← j.variant)).elim (.error .form) .ok

inductive MemberSort where
  | text | className | type | types
  deriving DecidableEq, Repr

abbrev MemberSort.Value : MemberSort → Type
  | text => String
  | className => ClassName
  | type => TypeName
  | types => List TypeName

abbrev Member := String × (s : MemberSort) × s.Value

namespace Composite

def members : Composite → List (String × MemberSort)
  | array => [("component_type", .type)]
  | parameterized => [("raw_type", .className), ("type_arguments", .types)]
  | typeVariable => [("name", .text), ("bounds", .types)]
  | intersection => [("bounds", .types)]

def build (c : Composite) (ms : List Member) : Except DecodeError TypeName :=
  match c with
  | array =>
    match ms.lookup "component_type" with
    | some ⟨.type, component⟩ => .ok (.array component)
    | _ => .error .form
  | parameterized =>
    match ms.lookup "raw_type", ms.lookup "type_arguments" with
    | some ⟨.className, raw⟩, some ⟨.types, arguments⟩ =>
      (TypeName.applied raw arguments).mapError .refused
    | _, _ => .error .form
  | typeVariable =>
    match ms.lookup "name", ms.lookup "bounds" with
    | some ⟨.text, name⟩, some ⟨.types, bounds⟩ => .ok (.typeVariable name bounds)
    | some ⟨.text, name⟩, none => .ok (.typeVariable name [])
    | _, _ => .error .form
  | intersection =>
    match ms.lookup "bounds" with
    | some ⟨.types, bounds⟩ => (TypeName.meet bounds).mapError .refused
    | _ => .error .form

end Composite

namespace TypeName

def tagged (kind : String) (value : Json) : Json := .obj [("kind", .str kind), ("value", value)]

mutual

def toJson : TypeName → Json
  | primitive p => tagged "primitive" (.str p.keyword)
  | void => .obj [("kind", .str "void")]
  | null => .obj [("kind", .str "null")]
  | named c => tagged "class" c.toJson
  | array component => tagged "array" (.obj [("component_type", toJson component)])
  | parameterized raw arguments =>
    tagged "parameterized"
      (.obj [("raw_type", raw.toJson), ("type_arguments", .arr (toJsonAll arguments))])
  | typeVariable name bounds =>
    tagged "type_variable" (.obj [("name", .str name), ("bounds", .arr (toJsonAll bounds))])
  | intersection bounds => tagged "intersection" (.obj [("bounds", .arr (toJsonAll bounds))])

def toJsonAll : List TypeName → List Json
  | [] => []
  | t :: ts => toJson t :: toJsonAll ts

end

mutual

def read : (s : MemberSort) → Json → Except DecodeError s.Value
  | .text, j => j.text
  | .className, j => ClassName.ofJson j
  | .types, .arr items => readAll items
  | .type, .obj members =>
    match members.lookup "kind" with
    | some kind => do readTagged (← TypeTag.ofText (← kind.variant)) members
    | none => .error .form
  | .type, .arr (kind :: value :: more) => do
    let t ← readValue (← TypeTag.ofText (← kind.text)) value
    if more.isEmpty then .ok t else .error .form
  | _, _ => .error .form

def readAll : List Json → Except DecodeError (List TypeName)
  | [] => .ok []
  | j :: js => do
    let t ← read .type j
    let ts ← readAll js
    .ok (t :: ts)

def readTagged (tag : TypeTag) : List (String × Json) → Except DecodeError TypeName
  | [] => tag.bare
  | (name, j) :: rest => if name = "value" then readValue tag j else readTagged tag rest

def readValue : TypeTag → Json → Except DecodeError TypeName
  | .primitive, j => .primitive <$> Primitive.ofJson j
  | .named, j => .named <$> ClassName.ofJson j
  | .composite c, .obj members => do c.build (← readMembers c members)
  | .composite c, .arr items => do c.build (← readItems c.members items)
  | tag, .null => tag.bare
  | _, _ => .error .form

def readMembers (c : Composite) : List (String × Json) → Except DecodeError (List Member)
  | [] => .ok []
  | (name, j) :: rest =>
    match c.members.lookup name with
    | none => readMembers c rest
    | some s => do
      let v ← read s j
      let ms ← readMembers c rest
      .ok ((name, ⟨s, v⟩) :: ms)

def readItems : List (String × MemberSort) → List Json → Except DecodeError (List Member)
  | _, [] => .ok []
  | [], _ :: _ => .error .form
  | (name, s) :: members, j :: js => do
    let v ← read s j
    let ms ← readItems members js
    .ok ((name, ⟨s, v⟩) :: ms)

end

def ofJson (j : Json) : Except DecodeError TypeName := read .type j

end TypeName

end JavaTypes
