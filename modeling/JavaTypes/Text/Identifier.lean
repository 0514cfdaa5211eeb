import JavaTypes.Text.Unicode.Alphabetic
import JavaTypes.Text.Unicode.Numeric
import JavaTypes.Text.Unicode.Uppercase

/-!
Letters, digits and identifiers. ASCII is decided by range, everything beyond it by table.
-/

namespace JavaTypes.Text

def isAlphabetic (c : Char) : Bool :=
  if c.toNat < 128 then c.isAlpha else Unicode.alphabetic.Covers c.toNat

def isNumeric (c : Char) : Bool :=
  if c.toNat < 128 then c.isDigit else Unicode.numeric.Covers c.toNat

def isUppercase (c : Char) : Bool :=
  if c.toNat < 128 then c.isUpper else Unicode.uppercase.Covers c.toNat

def isIdentifierStart (c : Char) : Bool :=
  isAlphabetic c || c == '_' || c == '$'

def isIdentifierPart (c : Char) : Bool :=
  isAlphabetic c || isNumeric c || c == '_' || c == '$'

def isIdentifier (s : String) : Bool :=
  match s.toList with
  | [] => false
  | c :: rest => isIdentifierStart c && rest.all isIdentifierPart

def isCapitalized (s : String) : Bool :=
  s.toList.head?.any isUppercase

theorem isIdentifierPart_of_start {c : Char} (h : isIdentifierStart c = true) :
    isIdentifierPart c = true := by
  unfold isIdentifierStart at h
  unfold isIdentifierPart
  grind

theorem isIdentifierPart_of_mem {s : String} (h : isIdentifier s = true) :
    ∀ c ∈ s.toList, isIdentifierPart c = true := by
  unfold isIdentifier at h
  cases hs : s.toList with
  | nil => simp
  | cons c rest =>
    simp only [hs, Bool.and_eq_true, List.all_eq_true] at h
    intro d hd
    cases hd with
    | head => exact isIdentifierPart_of_start h.1
    | tail _ hd => exact h.2 d hd

@[simp] theorem isIdentifierPart_dot : isIdentifierPart '.' = false := by decide

theorem notMem_of_isIdentifier {s : String} (h : isIdentifier s = true) {c : Char}
    (hc : isIdentifierPart c = false) : c ∉ s.toList := by
  intro hm
  rw [isIdentifierPart_of_mem h c hm] at hc
  cases hc

theorem dot_notMem_of_isIdentifier {s : String} (h : isIdentifier s = true) :
    '.' ∉ s.toList :=
  notMem_of_isIdentifier h isIdentifierPart_dot

theorem ne_empty_of_isIdentifier {s : String} (h : isIdentifier s = true) : s ≠ "" := by
  rintro rfl
  simp [isIdentifier] at h

end JavaTypes.Text
