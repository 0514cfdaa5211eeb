import JavaTypes.ClassRef.Basic
import JavaTypes.ClassName.Parse
import JavaTypes.TypeName.Basic
import JavaTypes.ConversionError

namespace JavaTypes

inductive ResolvedKind where
  | primitive (p : Primitive)
  | void | array | named
  deriving DecidableEq, Repr, Inhabited

/-- What a loaded class reports of itself. Nothing is promised about how the parts fit together. -/
inductive ResolvedClass where
  | mk (kind : ResolvedKind) (name : String) (component? : Option ResolvedClass)
  deriving Inhabited

namespace ResolvedClass

def name : ResolvedClass → String
  | mk _ name _ => name

def typeName : ResolvedClass → Except ConversionError TypeName
  | mk (.primitive p) _ _ => .ok (.primitive p)
  | mk .void _ _ => .ok .void
  | mk .array _ (some component) => component.typeName.map .array
  | mk .array name none => .error (.invalidInput (.arrayClassWithoutComponent name))
  | mk .named name _ =>
    if name.isEmpty then .error (.invalidInput .unnamedClass)
    else ((ClassName.ofBinaryName name).map .named).mapError .refused

end ResolvedClass

def BaseType.primitive : BaseType → Primitive
  | byte => .byte
  | char => .char
  | double => .double
  | float => .float
  | int => .int
  | long => .long
  | short => .short
  | boolean => .boolean

theorem BaseType.keyword_primitive (b : BaseType) : b.primitive.keyword = b.keyword := by
  cases b <;> rfl

theorem BaseType.descriptor_primitive (b : BaseType) : b.primitive.descriptor = b.descriptor := by
  cases b <;> rfl

theorem BaseType.primitive_surjective : ∀ p : Primitive, ∃ b : BaseType, b.primitive = p
  | .boolean => ⟨boolean, rfl⟩
  | .byte => ⟨byte, rfl⟩
  | .short => ⟨short, rfl⟩
  | .int => ⟨int, rfl⟩
  | .long => ⟨long, rfl⟩
  | .char => ⟨char, rfl⟩
  | .float => ⟨float, rfl⟩
  | .double => ⟨double, rfl⟩

namespace ClassRef

def resolved : ClassRef → ResolvedClass
  | primitive b => .mk (.primitive b.primitive) (primitive b).name none
  | void => .mk .void void.name none
  | array component => .mk .array (array component).name (some component.resolved)
  | object name => .mk .named (object name).name none

def typeName (r : ClassRef) : Except ConversionError TypeName := r.resolved.typeName

end ClassRef

end JavaTypes
