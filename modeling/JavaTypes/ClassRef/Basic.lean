import JavaTypes.Text.Segments
import JavaTypes.ClassRef.BaseType

namespace JavaTypes

open Text

inductive ClassRef where
  | primitive (b : BaseType)
  | void
  | array (component : ClassRef)
  | object (name : String)
  deriving DecidableEq, Repr, Inhabited

inductive ClassRefError where
  | invalidDescriptor (text : String)
  | invalidName (text : String)
  deriving DecidableEq, Repr

def ClassRefError.message : ClassRefError → String
  | invalidDescriptor text => "invalid descriptor: " ++ text
  | invalidName text => "invalid class name: " ++ text

namespace ClassRef

def isObjectName (name : String) : Bool :=
  name.toList.all (fun c => c != '/' && c != ';' && c != '[') &&
    (segments '.' name).all (!·.isEmpty)

def ofObjectName (name : String) : Except ClassRefError ClassRef :=
  if isObjectName name then .ok (object name) else .error (.invalidName name)

def descriptor : ClassRef → String
  | primitive b => String.singleton b.descriptor
  | void => "V"
  | array component => "[" ++ component.descriptor
  | object name => "L" ++ reseparated '.' '/' name ++ ";"

def name : ClassRef → String
  | primitive b => b.keyword
  | void => "void"
  | array component => reseparated '/' '.' (array component).descriptor
  | object name => name

def component? : ClassRef → Option ClassRef
  | array component => some component
  | _ => none

def isArray : ClassRef → Bool
  | array _ => true
  | _ => false

def isPrimitive : ClassRef → Bool
  | primitive _ | void => true
  | _ => false

def innermost : ClassRef → ClassRef
  | array component => component.innermost
  | r => r

/-- What the readers produce: `void`, or dimensions over a primitive type or an accepted class. -/
def Checked : ClassRef → Prop
  | void => True
  | r =>
    match r.innermost with
    | primitive _ => True
    | object name => (ofObjectName name).isOk = true
    | _ => False

instance (r : ClassRef) : Decidable r.Checked := by
  unfold Checked
  repeat' split
  all_goals infer_instance

theorem ofObjectName_eq_ok_iff {s : String} {r : ClassRef} :
    ofObjectName s = .ok r ↔ isObjectName s = true ∧ r = object s := by
  rw [ofObjectName]
  split
  next h => simp [h, eq_comm]
  next h => simp [h]

@[simp] theorem checked_primitive (b : BaseType) : (primitive b).Checked := trivial

@[simp] theorem checked_void : void.Checked := trivial

@[simp] theorem checked_object {name : String} :
    (object name).Checked ↔ isObjectName name = true := by
  have h : (object name).Checked ↔ (ofObjectName name).isOk = true := Iff.rfl
  rw [h, ofObjectName]
  split
  next hn => exact iff_of_true rfl hn
  next hn => exact iff_of_false nofun hn

@[simp] theorem checked_array {component : ClassRef} :
    (array component).Checked ↔ component.Checked ∧ component ≠ void := by
  cases component with
  | void => simp [Checked, innermost]
  | primitive b => simp [Checked, innermost]
  | array r => simp [Checked, innermost]
  | object name => simp [Checked, innermost]

@[simp] theorem toList_descriptor_primitive (b : BaseType) :
    (primitive b).descriptor.toList = [b.descriptor] := by
  simp [descriptor]

@[simp] theorem toList_descriptor_array (component : ClassRef) :
    (array component).descriptor.toList = '[' :: component.descriptor.toList := by
  simp [descriptor]

@[simp] theorem toList_descriptor_object (name : String) :
    (object name).descriptor.toList = 'L' :: (reseparated '.' '/' name).toList ++ [';'] := by
  simp [descriptor]

theorem dot_notMem_descriptor (r : ClassRef) : '.' ∉ r.descriptor.toList := by
  induction r with
  | primitive b => cases b <;> decide
  | void => decide
  | array component ih => simpa using ih
  | object name =>
    have hn : '.' ∉ (reseparated '.' '/' name).toList := notMem_reseparated (by decide) name
    rw [toList_descriptor_object]
    simpa using hn

theorem isObjectName_iff {name : String} :
    isObjectName name = true ↔
      ('/' ∉ name.toList ∧ ';' ∉ name.toList ∧ '[' ∉ name.toList) ∧ "" ∉ segments '.' name := by
  rw [isObjectName, Bool.and_eq_true, List.all_eq_true, List.all_eq_true]
  apply and_congr
  · constructor
    · intro h
      refine ⟨fun hc => ?_, fun hc => ?_, fun hc => ?_⟩
      all_goals simpa using h _ hc
    · rintro ⟨hs, hd, hb⟩ c hc
      have hne : c ≠ '/' ∧ c ≠ ';' ∧ c ≠ '[' := by
        refine ⟨?_, ?_, ?_⟩
        all_goals
          rintro rfl
          contradiction
      simp [hne]
  · constructor
    · intro h he
      simpa using h "" he
    · intro h s hs
      have hne : s ≠ "" := by
        rintro rfl
        exact h hs
      simpa using hne

end ClassRef

end JavaTypes
