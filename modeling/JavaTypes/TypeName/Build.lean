import JavaTypes.ClassName.Parse
import JavaTypes.TypeName.Dimensions

namespace JavaTypes

inductive BuildStep where
  | push (t : TypeName)
  | parsed (canonicalName : String)
  | binary (binaryName : String)
  | arrayOf (n : Nat)
  | component
  | element
  | applied (raw : String) (n : Nat)
  | typeVariable (name : String) (n : Nat)
  | intersection (n : Nat)
  | spread
  | duplicate
  deriving Repr

inductive BuildError where
  | underflow
  | notArray
  | notIntersection
  | refused (e : NameError)
  deriving DecidableEq, Repr

/-- The top comes first. -/
abbrev TypeStack := List TypeName

namespace TypeStack

def takeOperands (n : Nat) (s : TypeStack) : Except BuildError (List TypeName × TypeStack) :=
  if s.length < n then .error .underflow else .ok ((s.take n).reverse, s.drop n)

def step (s : TypeStack) : BuildStep → Except BuildError TypeStack
  | .push t => .ok (t :: s)
  | .parsed name => do
    let c ← (ClassName.parse name).mapError .refused
    .ok (.named c :: s)
  | .binary name => do
    let c ← (ClassName.ofBinaryName name).mapError .refused
    .ok (.named c :: s)
  | .arrayOf n =>
    match s with
    | t :: rest => .ok (t.arrayOf n :: rest)
    | [] => .error .underflow
  | .component =>
    match s with
    | .array t :: rest => .ok (t :: rest)
    | _ :: _ => .error .notArray
    | [] => .error .underflow
  | .element =>
    match s with
    | .array t :: rest => .ok (t.elementType :: rest)
    | _ :: _ => .error .notArray
    | [] => .error .underflow
  | .applied raw n => do
    let c ← (ClassName.parse raw).mapError .refused
    let (arguments, rest) ← takeOperands n s
    let t ← (TypeName.applied c arguments).mapError .refused
    .ok (t :: rest)
  | .typeVariable name n => do
    let (bounds, rest) ← takeOperands n s
    .ok (.typeVariable name bounds :: rest)
  | .intersection n => do
    let (bounds, rest) ← takeOperands n s
    let t ← (TypeName.meet bounds).mapError .refused
    .ok (t :: rest)
  | .spread =>
    match s with
    | .intersection bounds :: rest => .ok (bounds.reverse ++ rest)
    | _ :: _ => .error .notIntersection
    | [] => .error .underflow
  | .duplicate =>
    match s with
    | t :: rest => .ok (t :: t :: rest)
    | [] => .error .underflow

end TypeStack

end JavaTypes
