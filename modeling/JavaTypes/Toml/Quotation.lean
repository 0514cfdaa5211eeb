namespace JavaTypes.Toml

def isPlain (c : Char) : Bool := c = '\t' || (' ' ≤ c && c ≠ '\x7f')

def isBlank (c : Char) : Bool := c = ' ' || c = '\t'

def hexDigit? (c : Char) : Option Nat :=
  if c.isDigit then some (c.toNat - '0'.toNat)
  else if 'a' ≤ c && c ≤ 'f' then some (c.toNat - 'a'.toNat + 10)
  else if 'A' ≤ c && c ≤ 'F' then some (c.toNat - 'A'.toNat + 10)
  else none

def charOfHex? (digits : List Char) : Option Char := do
  let ds ← digits.mapM hexDigit?
  let n := ds.foldl (fun n d => 16 * n + d) 0
  if n.isValidChar then some (Char.ofNat n) else none

def escaped? : Char → Option Char
  | 'b' => some '\x08'
  | 't' => some '\t'
  | 'n' => some '\n'
  | 'f' => some '\x0c'
  | 'r' => some '\r'
  | '"' => some '"'
  | '\\' => some '\\'
  | _ => none

abbrev Quotation := Option (List Char × List Char)

def Quotation.cons (c : Char) (q : Quotation) : Quotation := q.map fun (s, rest) => (c :: s, rest)

def basic : List Char → Quotation
  | [] => none
  | '"' :: rest => some ([], rest)
  | '\\' :: 'u' :: a :: b :: c :: d :: rest =>
    (charOfHex? [a, b, c, d]).bind fun x => Quotation.cons x (basic rest)
  | '\\' :: 'U' :: a :: b :: c :: d :: e :: f :: g :: h :: rest =>
    (charOfHex? [a, b, c, d, e, f, g, h]).bind fun x => Quotation.cons x (basic rest)
  | '\\' :: c :: rest => (escaped? c).bind fun x => Quotation.cons x (basic rest)
  | c :: rest => if isPlain c && c ≠ '\\' then Quotation.cons c (basic rest) else none

def literal : List Char → Quotation
  | [] => none
  | '\'' :: rest => some ([], rest)
  | c :: rest => if isPlain c then Quotation.cons c (literal rest) else none

def closing (quote : Char) : List Char → List Char × List Char
  | a :: b :: rest =>
    if a ≠ quote then ([], a :: b :: rest)
    else if b ≠ quote then ([a], b :: rest)
    else ([a, b], rest)
  | [a] => if a = quote then ([a], []) else ([], [a])
  | [] => ([], [])

def startsLine : List Char → Bool
  | '\n' :: _ => true
  | '\r' :: '\n' :: _ => true
  | _ => false

/-- Three double quotes around several lines. A backslash at the end of a line removes the blanks
and line breaks that follow, which are skipped while `skip` holds. -/
def basicLines (skip : Bool) : List Char → Quotation
  | [] => none
  | '\n' :: rest =>
    if skip then basicLines true rest else Quotation.cons '\n' (basicLines false rest)
  | '\r' :: '\n' :: rest =>
    if skip then basicLines true rest else Quotation.cons '\n' (basicLines false rest)
  | '"' :: '"' :: '"' :: rest => some (closing '"' rest)
  | '\\' :: 'u' :: a :: b :: c :: d :: rest =>
    (charOfHex? [a, b, c, d]).bind fun x => Quotation.cons x (basicLines false rest)
  | '\\' :: 'U' :: a :: b :: c :: d :: e :: f :: g :: h :: rest =>
    (charOfHex? [a, b, c, d, e, f, g, h]).bind fun x => Quotation.cons x (basicLines false rest)
  | '\\' :: c :: rest =>
    if startsLine ((c :: rest).dropWhile isBlank) then basicLines true (c :: rest)
    else (escaped? c).bind fun x => Quotation.cons x (basicLines false rest)
  | c :: rest =>
    if skip && isBlank c then basicLines true rest
    else if isPlain c && c ≠ '\\' then Quotation.cons c (basicLines false rest)
    else none

def literalLines : List Char → Quotation
  | [] => none
  | '\n' :: rest => Quotation.cons '\n' (literalLines rest)
  | '\r' :: '\n' :: rest => Quotation.cons '\n' (literalLines rest)
  | '\'' :: '\'' :: '\'' :: rest => some (closing '\'' rest)
  | c :: rest => if isPlain c then Quotation.cons c (literalLines rest) else none

def dropFirstBreak : List Char → List Char
  | '\n' :: rest => rest
  | '\r' :: '\n' :: rest => rest
  | s => s

def quotation : List Char → Quotation
  | '"' :: '"' :: '"' :: rest => basicLines false (dropFirstBreak rest)
  | '"' :: rest => basic rest
  | '\'' :: '\'' :: '\'' :: rest => literalLines (dropFirstBreak rest)
  | '\'' :: rest => literal rest
  | _ => none

end JavaTypes.Toml
