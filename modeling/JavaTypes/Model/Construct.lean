import JavaTypes.Model.Arena
import JavaTypes.TypeName.Basic

namespace JavaTypes.Arena

abbrev Construction := StateT Arena (Except BoundError)

def doing {α : Type} (act : StateM Arena α) : Construction α := fun a => .ok (act.run a)

def boundedBy (t bound : TypeId) : Construction Unit := fun a =>
  (a.setBound t bound).map fun b => ((), b)

def boundedVariable (owner : ElementId) (name : String) (bound : TypeId) :
    Construction TypeId := do
  let t ← doing (typeParameter owner name)
  boundedBy t bound
  return t

def constructVariable (owner : ElementId) (name : String) : List TypeId → Construction TypeId
  | [] => doing (typeParameter owner name)
  | [bound] => boundedVariable owner name bound
  | bounds => do
    let bound ← doing (intersection bounds)
    boundedVariable owner name bound

mutual

def construct (owner : ElementId) : TypeName → Construction TypeId
  | .primitive p => doing (primitive p)
  | .void => doing void
  | .null => doing null
  | .named c => doing (classType c.packageName c.simpleNames)
  | .array component => do
    let s ← construct owner component
    doing (arrayOf 1 s)
  | .parameterized raw arguments => do
    let arguments ← constructAll owner arguments
    let e ← doing (classElement raw.packageName raw.simpleNames)
    doing (declared e arguments)
  | .typeVariable name bounds => do
    let bounds ← constructAll owner bounds
    constructVariable owner name bounds
  | .intersection bounds => do
    let bounds ← constructAll owner bounds
    doing (intersection bounds)

def constructAll (owner : ElementId) : List TypeName → Construction (List TypeId)
  | [] => return []
  | t :: ts => do
    let s ← construct owner t
    let ss ← constructAll owner ts
    return s :: ss

end

end JavaTypes.Arena
