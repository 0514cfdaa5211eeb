/-!
Contents of a TOML document, as far as settings need them: text, empty arrays and tables. Tables are
merged key by key, and how a table came to be decides what may still be added to it.
-/

namespace JavaTypes.Toml

inductive Origin where
  | header
  | implied
  | dotted
  | inline
  deriving DecidableEq, Repr

inductive Item where
  | text (s : String)
  | emptyArray
  | table (origin : Origin) (entries : List (String × Item))
  deriving Repr, Inhabited

abbrev Entries := List (String × Item)

namespace Entries

def set (es : Entries) (key : String) (item : Item) : Entries :=
  es.map fun e => if e.1 = key then (key, item) else e

/-- Adds an item under a dotted key. No key is given twice, and of the tables on the way only those
that dotted keys made may be added to. -/
def assign (item : Item) : List String → Entries → Option Entries
  | [], _ => none
  | [key], es => if (es.lookup key).isSome then none else some (es ++ [(key, item)])
  | key :: path, es =>
    match es.lookup key with
    | none => (assign item path []).map fun sub => es ++ [(key, .table .dotted sub)]
    | some (.table .dotted sub) =>
      (assign item path sub).map fun sub => set es key (.table .dotted sub)
    | some _ => none

/-- Opens the table under a header. A table that was only implied so far may be opened once. -/
def define : List String → Entries → Option Entries
  | [], _ => none
  | [key], es =>
    match es.lookup key with
    | none => some (es ++ [(key, .table .header [])])
    | some (.table .implied sub) => some (set es key (.table .header sub))
    | some _ => none
  | key :: path, es =>
    match es.lookup key with
    | none => (define path []).map fun sub => es ++ [(key, .table .implied sub)]
    | some (.table .inline _) => none
    | some (.table origin sub) => (define path sub).map fun sub => set es key (.table origin sub)
    | some _ => none

def update (change : Entries → Option Entries) : List String → Entries → Option Entries
  | [], es => change es
  | key :: path, es =>
    match es.lookup key with
    | some (.table origin sub) =>
      (update change path sub).map fun sub => set es key (.table origin sub)
    | _ => none

end Entries

end JavaTypes.Toml
