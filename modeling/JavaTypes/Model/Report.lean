import JavaTypes.Model.Convert
import JavaTypes.Settings.Basic

namespace JavaTypes

structure Report where
  result : Except Halt TypeName
  events : List Event

def TypeModel.report {T E : Type} [DecidableEq E] (m : TypeModel T E) (settings : Settings)
    (n : Nat) (t : T) : Report :=
  let (result, progress) := m.convert (settings.effective m.convention) n t .start
  ⟨result, settings.events m.convention ++ progress.log.reverse⟩

/-- An allowance for models of so many types and elements: on the way down, no type repeats before
the next new type variable, and each element declares one variable and has one way outwards. -/
def TypeModel.allowance (types elements : Nat) : Nat :=
  (types + 1) * (elements + 1) + elements + 2

end JavaTypes
