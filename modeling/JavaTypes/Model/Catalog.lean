import Mathlib.Data.List.Basic
import JavaTypes.Model.Arena

namespace JavaTypes

structure Catalog where
  arena : Arena
  packages : Std.HashMap String ElementId
  classes : Std.HashMap (ElementId × String) ElementId

namespace Catalog

variable {α : Type}

def empty (convention : Convention) : Catalog := ⟨.empty convention, ∅, ∅⟩

def find? (c : Catalog) : ElementData → Option ElementId
  | .package name => c.packages[name]?
  | .type name enclosing => c.classes[(enclosing, name)]?
  | _ => none

def record (c : Catalog) (e : ElementId) : ElementData → Catalog
  | .package name => { c with packages := c.packages.insert name e }
  | .type name enclosing => { c with classes := c.classes.insert (enclosing, name) e }
  | _ => c

def lift (act : StateM Arena α) : StateM Catalog α := fun c =>
  ((act.run c.arena).1, { c with arena := (act.run c.arena).2 })

def share (data : ElementData) : StateM Catalog ElementId := do
  match (← get).find? data with
  | some e => return e
  | none =>
    let e ← lift (Arena.addElement data)
    modify fun c => c.record e data
    return e

def packageElement (name : String) : StateM Catalog ElementId := share (.package name)

def classElement (packageName : String) (names : List String) : StateM Catalog ElementId := do
  names.foldlM (fun e name => share (.type name e)) (← packageElement packageName)

def classType (packageName : String) (names : List String) : StateM Catalog TypeId := do
  lift (Arena.declared (← classElement packageName names) [])

def objectType : StateM Catalog TypeId := classType "java.lang" ["Object"]

def typeParameter (owner : ElementId) (name : String) : StateM Catalog TypeId := do
  let bound ← objectType
  let e ← lift (Arena.addElement (.typeParameter name owner bound))
  lift (Arena.typeVariable e)

end Catalog

end JavaTypes
