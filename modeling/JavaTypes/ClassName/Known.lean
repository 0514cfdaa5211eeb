import JavaTypes.ClassName.Basic
import JavaTypes.Primitive

namespace JavaTypes

namespace ClassName

def javaLang (simpleName : String) : ClassName := ⟨["java", "lang"], [], simpleName⟩

def object : ClassName := javaLang "Object"

def voidClass : ClassName := javaLang "Void"

end ClassName

def Primitive.boxed : Primitive → ClassName
  | boolean => .javaLang "Boolean"
  | byte => .javaLang "Byte"
  | short => .javaLang "Short"
  | int => .javaLang "Integer"
  | long => .javaLang "Long"
  | char => .javaLang "Character"
  | float => .javaLang "Float"
  | double => .javaLang "Double"

theorem ClassName.object_valid : object.Valid := by decide

theorem ClassName.voidClass_valid : voidClass.Valid := by decide

theorem Primitive.boxed_valid (p : Primitive) : p.boxed.Valid := by cases p <;> decide

end JavaTypes
