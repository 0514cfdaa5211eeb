import JavaTypes.Model.Report
import JavaTypes.Text.Quoted

/-!
A model that is built up in memory. Packages and classes are shared by name, every request for a
type allocates a new handle, and a type parameter exists before its bound is set, so bounds may be
cyclic. Handles are numbers without a limit, so sessions of fewer than 2^32 allocations are meant.
-/

namespace JavaTypes

structure ElementId where
  index : Nat
  deriving DecidableEq, Hashable, Repr, Inhabited

structure TypeId where
  index : Nat
  deriving DecidableEq, Repr, Inhabited

def ElementId.text (e : ElementId) : String := "ElementId(" ++ Nat.repr e.index ++ ")"

def TypeId.text (t : TypeId) : String := "TypeId(" ++ Nat.repr t.index ++ ")"

inductive ElementData where
  | package (name : String)
  | type (name : String) (enclosing : ElementId)
  | typeParameter (name : String) (enclosing : ElementId) (bound : TypeId)
  | method (name : String) (enclosing : ElementId)
  deriving DecidableEq, Repr

namespace ElementData

def name : ElementData → String
  | package name | type name _ | typeParameter name _ _ | method name _ => name

def kind : ElementData → ElementKind
  | package _ => .package
  | type _ _ => .type
  | typeParameter _ _ _ => .typeParameter
  | method _ _ => .other

def enclosing? : ElementData → Option ElementId
  | package _ => none
  | type _ e | typeParameter _ e _ | method _ e => some e

def text : ElementData → String
  | package name => "Package " ++ record [("name", Text.quoted name)]
  | type name e => "Type " ++ record [("name", Text.quoted name), ("enclosing", e.text)]
  | typeParameter name e b =>
    "TypeParameter " ++
      record [("name", Text.quoted name), ("enclosing", e.text), ("bound", b.text)]
  | method name e => "Method " ++ record [("name", Text.quoted name), ("enclosing", e.text)]
where
  record (fields : List (String × String)) : String :=
    "\x7b " ++ ", ".intercalate (fields.map fun (name, value) => name ++ ": " ++ value) ++ " \x7d"

end ElementData

inductive TypeData where
  | primitive (p : Primitive)
  | void
  | null
  | array (component : TypeId)
  | declared (element : ElementId) (arguments : List TypeId)
  | typeVariable (parameter : ElementId)
  | intersection (parts : List TypeId)
  | bare (kind : TypeKind)
  deriving DecidableEq, Repr

namespace TypeData

def kind : TypeData → TypeKind
  | primitive p => .primitive p
  | void => .void
  | null => .null
  | array _ => .array
  | declared _ _ => .declared
  | typeVariable _ => .typeVariable
  | intersection _ => .intersection
  | bare kind => kind

def component? : TypeData → Option TypeId
  | array component => some component
  | _ => none

def element? : TypeData → Option ElementId
  | declared e _ | typeVariable e => some e
  | _ => none

def arguments : TypeData → List TypeId
  | declared _ arguments => arguments
  | _ => []

def parts : TypeData → List TypeId
  | intersection parts => parts
  | _ => []

end TypeData

structure Arena where
  convention : Convention
  elements : Array ElementData
  types : Array TypeData

inductive BoundError where
  | notVariable (t : TypeId)
  | notParameter (e : ElementId) (data : ElementData)
  deriving DecidableEq, Repr

def BoundError.message : BoundError → String
  | notVariable t => t.text ++ " is not a type variable"
  | notParameter e data => e.text ++ " is not a type parameter: " ++ data.text

namespace Arena

def empty (convention : Convention) : Arena := ⟨convention, #[], #[]⟩

def element? (a : Arena) (e : ElementId) : Option ElementData := a.elements[e.index]?

def type? (a : Arena) (t : TypeId) : Option TypeData := a.types[t.index]?

def addElement (data : ElementData) : StateM Arena ElementId := fun a =>
  (⟨a.elements.size⟩, { a with elements := a.elements.push data })

def addType (data : TypeData) : StateM Arena TypeId := fun a =>
  (⟨a.types.size⟩, { a with types := a.types.push data })

def share (data : ElementData) : StateM Arena ElementId := fun a =>
  match a.elements.findIdx? (· = data) with
  | some i => (⟨i⟩, a)
  | none => addElement data a

def packageElement (name : String) : StateM Arena ElementId := share (.package name)

def classElement (packageName : String) (names : List String) : StateM Arena ElementId := do
  names.foldlM (fun e name => share (.type name e)) (← packageElement packageName)

def localClass (owner : ElementId) (method name : String) : StateM Arena ElementId := do
  let m ← addElement (.method method owner)
  addElement (.type name m)

def declared (e : ElementId) (arguments : List TypeId) : StateM Arena TypeId :=
  addType (.declared e arguments)

def classType (packageName : String) (names : List String) : StateM Arena TypeId := do
  declared (← classElement packageName names) []

def objectType : StateM Arena TypeId := classType "java.lang" ["Object"]

def primitive (p : Primitive) : StateM Arena TypeId := addType (.primitive p)

def void : StateM Arena TypeId := addType .void

def null : StateM Arena TypeId := addType .null

def arrayOf : Nat → TypeId → StateM Arena TypeId
  | 0, t => pure t
  | n + 1, t => do arrayOf n (← addType (.array t))

def intersection (parts : List TypeId) : StateM Arena TypeId := addType (.intersection parts)

def bare (kind : TypeKind) : StateM Arena TypeId := addType (.bare kind)

def typeVariable (parameter : ElementId) : StateM Arena TypeId := addType (.typeVariable parameter)

def typeParameter (owner : ElementId) (name : String) : StateM Arena TypeId := do
  let bound ← objectType
  typeVariable (← addElement (.typeParameter name owner bound))

def parameter? (a : Arena) (t : TypeId) : Option ElementId :=
  match a.type? t with
  | some (.typeVariable e) => some e
  | _ => none

def setBound (a : Arena) (t bound : TypeId) : Except BoundError Arena :=
  match a.parameter? t with
  | none => .error (.notVariable t)
  | some e =>
    match a.element? e with
    | some (.typeParameter name owner _) =>
      let data := .typeParameter name owner bound
      .ok { a with elements := a.elements.setIfInBounds e.index data }
    | some data => .error (.notParameter e data)
    | none => .error (.notVariable t)

/-- The same in place: every test comes before the write. -/
def rebind (t bound : TypeId) : ExceptT BoundError (StateM Arena) Unit := do
  match (← get).parameter? t with
  | none => throw (.notVariable t)
  | some e =>
    match (← get).element? e with
    | some (.typeParameter name owner _) =>
      let data := .typeParameter name owner bound
      modify fun a => { a with elements := a.elements.setIfInBounds e.index data }
    | some data => throw (.notParameter e data)
    | none => throw (.notVariable t)

def setConvention (convention : Convention) (a : Arena) : Arena := { a with convention }

def model (a : Arena) : TypeModel TypeId ElementId where
  kind t := ((a.type? t).map TypeData.kind).getD .none
  component? t := (a.type? t).bind TypeData.component?
  element? t := (a.type? t).bind TypeData.element?
  arguments t := ((a.type? t).map TypeData.arguments).getD []
  upperBound? t :=
    match (a.parameter? t).bind a.element? with
    | some (.typeParameter _ _ bound) => some bound
    | _ => none
  parts t := ((a.type? t).map TypeData.parts).getD []
  elementKind e := ((a.element? e).map ElementData.kind).getD .other
  elementName e := ((a.element? e).map ElementData.name).getD ""
  enclosing? e := (a.element? e).bind ElementData.enclosing?
  convention := a.convention

def report (a : Arena) (settings : Settings) (t : TypeId) : Report :=
  a.model.report settings (TypeModel.allowance a.types.size a.elements.size) t

end Arena

end JavaTypes
