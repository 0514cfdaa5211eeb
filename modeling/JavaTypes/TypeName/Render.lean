import JavaTypes.TypeName.Basic

namespace JavaTypes

namespace TypeName

mutual

def render : TypeName → String
  | primitive p => p.keyword
  | void => "void"
  | null => "null"
  | named c => c.canonicalName
  | array component => render component ++ "[]"
  | parameterized raw arguments =>
    raw.canonicalName ++ "<" ++ ", ".intercalate (renderAll arguments) ++ ">"
  | typeVariable name _ => name
  | intersection bounds => " & ".intercalate (renderAll bounds)

def renderAll : List TypeName → List String
  | [] => []
  | t :: ts => render t :: renderAll ts

end

@[simp] theorem renderAll_eq_map (ts : List TypeName) : renderAll ts = ts.map render := by
  induction ts with
  | nil => rfl
  | cons t ts ih => simp [renderAll, ih]

end TypeName

def TypeVariable.declaration (v : TypeVariable) : String :=
  if v.isUnbounded then v.name
  else v.name ++ " extends " ++ " & ".intercalate (v.bounds.map TypeName.render)

end JavaTypes
