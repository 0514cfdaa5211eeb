namespace JavaTypes

inductive Primitive where
  | boolean | byte | short | int | long | char | float | double
  deriving DecidableEq, Repr

namespace Primitive

def all : List Primitive := [boolean, byte, short, int, long, char, float, double]

def keyword : Primitive → String
  | boolean => "boolean"
  | byte => "byte"
  | short => "short"
  | int => "int"
  | long => "long"
  | char => "char"
  | float => "float"
  | double => "double"

def descriptor : Primitive → Char
  | boolean => 'Z'
  | byte => 'B'
  | short => 'S'
  | int => 'I'
  | long => 'J'
  | char => 'C'
  | float => 'F'
  | double => 'D'

def ofKeyword? (s : String) : Option Primitive :=
  all.find? (·.keyword == s)

def ofDescriptor? (c : Char) : Option Primitive :=
  all.find? (·.descriptor == c)

def index : Primitive → Nat
  | boolean => 0
  | byte => 1
  | short => 2
  | int => 3
  | long => 4
  | char => 5
  | float => 6
  | double => 7

instance : Ord Primitive := ⟨fun p q => compare p.index q.index⟩

def sort (ps : List Primitive) : List Primitive :=
  ps.mergeSort fun p q => (compare p q).isLE

theorem mem_all (p : Primitive) : p ∈ all := by cases p <;> decide

theorem ofKeyword?_keyword (p : Primitive) : ofKeyword? p.keyword = some p := by
  cases p <;> decide

theorem ofKeyword?_eq_some {s : String} {p : Primitive} (h : ofKeyword? s = some p) :
    s = p.keyword := by
  have := List.find?_some (p := fun q : Primitive => q.keyword == s) h
  exact (beq_iff_eq.mp this).symm

theorem ofKeyword?_eq_none {s : String} (h : ∀ p : Primitive, s ≠ p.keyword) :
    ofKeyword? s = none := by
  cases hk : ofKeyword? s with
  | none => rfl
  | some p => exact absurd (ofKeyword?_eq_some hk) (h p)

end Primitive

end JavaTypes
