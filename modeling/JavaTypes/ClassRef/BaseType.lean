namespace JavaTypes

inductive BaseType where
  | byte | char | double | float | int | long | short | boolean
  deriving DecidableEq, Repr

namespace BaseType

def descriptor : BaseType → Char
  | byte => 'B'
  | char => 'C'
  | double => 'D'
  | float => 'F'
  | int => 'I'
  | long => 'J'
  | short => 'S'
  | boolean => 'Z'

def ofDescriptor? : Char → Option BaseType
  | 'B' => some byte
  | 'C' => some char
  | 'D' => some double
  | 'F' => some float
  | 'I' => some int
  | 'J' => some long
  | 'S' => some short
  | 'Z' => some boolean
  | _ => none

def keyword : BaseType → String
  | byte => "byte"
  | char => "char"
  | double => "double"
  | float => "float"
  | int => "int"
  | long => "long"
  | short => "short"
  | boolean => "boolean"

def ofKeyword? : String → Option BaseType
  | "byte" => some byte
  | "char" => some char
  | "double" => some double
  | "float" => some float
  | "int" => some int
  | "long" => some long
  | "short" => some short
  | "boolean" => some boolean
  | _ => none

variable {b : BaseType}

theorem ofDescriptor?_eq_some_iff {c : Char} : ofDescriptor? c = some b ↔ c = b.descriptor := by
  constructor
  · intro h
    unfold ofDescriptor? at h
    split at h <;> cases h <;> rfl
  · rintro rfl
    cases b <;> rfl

theorem ofKeyword?_eq_some_iff {s : String} : ofKeyword? s = some b ↔ s = b.keyword := by
  constructor
  · intro h
    unfold ofKeyword? at h
    split at h <;> cases h <;> rfl
  · rintro rfl
    cases b <;> rfl

theorem ofKeyword?_eq_none_iff {s : String} :
    ofKeyword? s = none ↔ ∀ b : BaseType, s ≠ b.keyword := by
  rw [Option.eq_none_iff_forall_ne_some]
  simp only [ne_eq, ofKeyword?_eq_some_iff]

end BaseType

end JavaTypes
