import JavaTypes.ClassRef.Basic

namespace JavaTypes.ClassRef

open Text

/-- Reads one descriptor off the front and returns what follows it. The text is a rest of `whole`,
which is what an error reports. -/
def readDescriptor (whole : String) : List Char → Except ClassRefError (ClassRef × List Char)
  | [] => .error (.invalidDescriptor whole)
  | '[' :: rest =>
    (readDescriptor whole rest).map fun (component, rest) => (array component, rest)
  | 'L' :: rest =>
    match rest.dropWhile (· != ';') with
    | [] => .error (.invalidDescriptor whole)
    | _ :: after =>
      let name := reseparated '/' '.' (String.ofList (rest.takeWhile (· != ';')))
      ((ofObjectName name).map (·, after)).mapError fun _ => .invalidDescriptor whole
  | c :: rest =>
    match BaseType.ofDescriptor? c with
    | some b => .ok (primitive b, rest)
    | none => .error (.invalidDescriptor whole)

def ofDescriptor (s : String) : Except ClassRefError ClassRef :=
  if s = "V" then .ok void
  else match readDescriptor s s.toList with
    | .ok (r, []) => .ok r
    | .ok _ => .error (.invalidDescriptor s)
    | .error e => .error e

def ofArrayName (s : String) : Except ClassRefError ClassRef :=
  if s.toList.contains '/' then .error (.invalidName s)
  else (ofDescriptor (reseparated '.' '/' s)).mapError fun _ => .invalidName s

def ofName (s : String) : Except ClassRefError ClassRef :=
  if s = "void" then .ok void
  else match BaseType.ofKeyword? s with
    | some b => .ok (primitive b)
    | none => if s.toList.head? = some '[' then ofArrayName s else ofObjectName s

end JavaTypes.ClassRef
