import JavaTypes.Toml.Item
import JavaTypes.Toml.Quotation

namespace JavaTypes.Toml

abbrev Reader := StateT (List Char) Option

namespace Reader

def peek? : Reader (Option Char) := do return (← get).head?

def next (c : Char) : Reader Unit := do
  match ← get with
  | d :: rest => if c = d then set rest else failure
  | [] => failure

def skipWhile (p : Char → Bool) : Reader Unit := modify (·.dropWhile p)

def blanks : Reader Unit := skipWhile isBlank

def quoted (q : List Char → Quotation) : Reader String := do
  let (s, rest) ← StateT.lift (q (← get))
  set rest
  return String.ofList s

def comment : Reader Unit := do
  if (← peek?) = some '#' then skipWhile isPlain

def lineBreak : Reader Unit := do
  match ← get with
  | '\n' :: rest => set rest
  | '\r' :: '\n' :: rest => set rest
  | _ => failure

def endOfLine : Reader Unit := do
  blanks
  comment
  match ← peek? with
  | none => return
  | some _ => lineBreak

def isKeyChar (c : Char) : Bool := c.isAlphanum || c = '_' || c = '-'

def bareKey : Reader String := do
  let s := (← get).takeWhile isKeyChar
  if s.isEmpty then failure
  skipWhile isKeyChar
  return String.ofList s

def simpleKey : Reader String := do
  match ← get with
  | '"' :: rest => set rest; quoted basic
  | '\'' :: rest => set rest; quoted literal
  | _ => bareKey

def key : Nat → Reader (List String)
  | 0 => failure
  | n + 1 => do
    blanks
    let k ← simpleKey
    blanks
    if (← peek?) = some '.' then
      next '.'
      return k :: (← key n)
    else return [k]

def gaps : Nat → Reader Unit
  | 0 => failure
  | n + 1 => do
    blanks
    comment
    if startsLine (← get) then
      lineBreak
      gaps n
    else return

def pairs (value : Reader Item) : Nat → Entries → Reader Entries
  | 0, _ => failure
  | n + 1, es => do
    let path ← key (n + 1)
    next '='
    blanks
    let item ← value
    let es ← StateT.lift (es.assign item path)
    blanks
    if (← peek?) = some ',' then
      next ','
      pairs value n es
    else
      next '\x7d'
      return es

def value : Nat → Reader Item
  | 0 => failure
  | n + 1 => do
    match ← peek? with
    | some '[' =>
      next '['
      gaps (n + 1)
      next ']'
      return .emptyArray
    | some '\x7b' =>
      next '\x7b'
      blanks
      if (← peek?) = some '\x7d' then
        next '\x7d'
        return .table .inline []
      else return .table .inline (← pairs (value n) n [])
    | _ => return .text (← quoted quotation)

def expression (n : Nat) (here : List String) (es : Entries) : Reader (List String × Entries) := do
  if (← peek?) = some '[' then
    next '['
    let path ← key n
    next ']'
    return (path, ← StateT.lift (es.define path))
  else
    let path ← key n
    next '='
    blanks
    let item ← value n
    return (here, ← StateT.lift (es.update (·.assign item path) here))

def lines : Nat → List String → Entries → Reader Entries
  | 0, _, _ => failure
  | n + 1, here, es => do
    blanks
    match ← peek? with
    | none => return es
    | some c =>
      if c = '#' || c = '\n' || c = '\r' then
        endOfLine
        lines n here es
      else
        let (here, es) ← expression (n + 1) here es
        endOfLine
        lines n here es

end Reader

def read? (s : String) : Option Entries :=
  let text := match s.toList with
    | '\ufeff' :: rest => rest
    | cs => cs
  ((Reader.lines (text.length + 1) [] []).run text).map (·.1)

end JavaTypes.Toml
