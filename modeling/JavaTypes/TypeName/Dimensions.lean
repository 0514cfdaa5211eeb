import JavaTypes.TypeName.Basic

namespace JavaTypes.TypeName

def arrayOf : Nat → TypeName → TypeName
  | 0, t => t
  | n + 1, t => .array (arrayOf n t)

def dimensions : TypeName → Nat
  | array component => component.dimensions + 1
  | _ => 0

def elementType : TypeName → TypeName
  | array component => component.elementType
  | t => t

theorem arrayOf_array (n : Nat) (t : TypeName) :
    arrayOf n (.array t) = .array (arrayOf n t) := by
  induction n with
  | zero => rfl
  | succ n ih => rw [arrayOf, ih, arrayOf]

theorem arrayOf_dimensions_elementType (t : TypeName) :
    arrayOf t.dimensions t.elementType = t := by
  induction t with
  | array component ih => simp [dimensions, elementType, arrayOf, ih]
  | _ => rfl

theorem isArray_elementType (t : TypeName) : t.elementType.isArray = false := by
  induction t with
  | array component ih => exact ih
  | _ => rfl

theorem dimensions_of_not_isArray {t : TypeName} (h : t.isArray = false) : t.dimensions = 0 := by
  cases t with
  | array component => cases h
  | _ => rfl

theorem elementType_of_not_isArray {t : TypeName} (h : t.isArray = false) : t.elementType = t := by
  cases t with
  | array component => cases h
  | _ => rfl

theorem dimensions_arrayOf (n : Nat) (t : TypeName) :
    (arrayOf n t).dimensions = n + t.dimensions := by
  induction n with
  | zero => simp [arrayOf]
  | succ n ih =>
    rw [arrayOf, dimensions, ih]
    omega

theorem elementType_arrayOf (n : Nat) (t : TypeName) :
    (arrayOf n t).elementType = t.elementType := by
  induction n with
  | zero => rfl
  | succ n ih => rw [arrayOf, elementType, ih]

end JavaTypes.TypeName
