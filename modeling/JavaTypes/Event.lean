import JavaTypes.Model.Kind

namespace JavaTypes

inductive Event where
  | converting (kind : TypeKind)
  | reused (name : String)
  | overridden (reported override : Convention)
  | fellBack (path error : String)
  deriving DecidableEq, Repr

inductive Level where
  | trace | debug | warn
  deriving DecidableEq, Repr

def Level.text : Level → String
  | trace => "TRACE"
  | debug => "DEBUG"
  | warn => "WARN"

namespace Event

def level : Event → Level
  | converting _ => .trace
  | reused _ => .debug
  | overridden _ _ => .debug
  | fellBack _ _ => .warn

def message : Event → String
  | converting _ => "converting live type"
  | reused _ => "type variable already seen; reusing memoized name"
  | overridden _ _ => "bound convention overridden by config"
  | fellBack _ _ => "falling back to default bridge config"

def fields : Event → List (String × String)
  | converting kind => [("kind", kind.text)]
  | reused name => [("name", name)]
  | overridden reported override =>
    [("reported", reported.label), ("overridden", override.label)]
  | fellBack path error => [("path", path), ("error", error)]

end Event

end JavaTypes
