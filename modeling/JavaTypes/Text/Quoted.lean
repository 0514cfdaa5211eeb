import JavaTypes.Text.Unicode.GraphemeExtend
import JavaTypes.Text.Unicode.Unprintable

namespace JavaTypes.Text

/-- Characters that attach to the one before them. The halfwidth sound marks of Katakana extend a
grapheme as well, but take up a cell of their own. -/
def isCombining (c : Char) : Bool :=
  c ≠ '\uff9e' && c ≠ '\uff9f' && c.toNat ≥ 128 && Unicode.graphemeExtend.Covers c.toNat

def isPrintable (c : Char) : Bool :=
  if c.toNat < 128 then 32 ≤ c.toNat && c.toNat < 127
  else ¬ Unicode.unprintable.Covers c.toNat

def quotedChar (c : Char) : List Char :=
  match c with
  | '\x00' => ['\\', '0']
  | '\t' => ['\\', 't']
  | '\r' => ['\\', 'r']
  | '\n' => ['\\', 'n']
  | '"' => ['\\', '"']
  | '\\' => ['\\', '\\']
  | c =>
    if isCombining c || !isPrintable c then
      ['\\', 'u', '\x7b'] ++ Nat.toDigits 16 c.toNat ++ ['\x7d']
    else [c]

def quoted (s : String) : String :=
  String.ofList ('"' :: s.toList.flatMap quotedChar ++ ['"'])

end JavaTypes.Text
