import JavaTypes.Settings.Basic
import JavaTypes.Toml.Document

namespace JavaTypes

namespace Toml

def Item.isEmpty : Item → Bool
  | .emptyArray => true
  | .table _ [] => true
  | _ => false

def Item.convention? : Item → Option Convention
  | .text s => Convention.ofKeyword? s
  | .table _ [(s, item)] => if item.isEmpty then Convention.ofKeyword? s else none
  | _ => none

end Toml

namespace Settings

def ofEntries? : Toml.Entries → Option Settings
  | [] => some default
  | [("bound_convention", item)] => item.convention?.map fun c => ⟨some c⟩
  | _ => none

def ofToml? (s : String) : Option Settings := (Toml.read? s).bind ofEntries?

inductive LoadError where
  | missing (path : String)
  | notText (path : String)
  | invalid
  deriving DecidableEq, Repr

def LoadError.message : LoadError → String
  | missing path => "failed to read " ++ path ++ ": No such file or directory (os error 2)"
  | notText path => "failed to read " ++ path ++ ": stream did not contain valid UTF-8"
  | invalid => "invalid bridge config"

def load (path : String) (contents : Option ByteArray) : Except LoadError Settings :=
  match contents with
  | none => .error (.missing path)
  | some bytes =>
    match String.fromUTF8? bytes with
    | none => .error (.notText path)
    | some s => (ofToml? s).elim (.error .invalid) .ok

def loadOrDefault (path : String) (contents : Option ByteArray) : Settings × List Event :=
  match load path contents with
  | .ok s => (s, [])
  | .error e => (default, [.fellBack path e.message])

end Settings

end JavaTypes
