import JavaTypes.ClassName.Known

namespace JavaTypes

inductive TypeName where
  | primitive (p : Primitive)
  | void
  | null
  | named (c : ClassName)
  | array (component : TypeName)
  | parameterized (raw : ClassName) (arguments : List TypeName)
  /-- No bounds stands for the bound `java.lang.Object`. -/
  | typeVariable (name : String) (bounds : List TypeName)
  | intersection (bounds : List TypeName)
  deriving Repr

namespace TypeName

@[elab_as_elim, induction_eliminator]
theorem induct {motive : TypeName → Prop}
    (primitive : ∀ p, motive (.primitive p))
    (void : motive .void)
    (null : motive .null)
    (named : ∀ c, motive (.named c))
    (array : ∀ component, motive component → motive (.array component))
    (parameterized : ∀ raw arguments, (∀ a ∈ arguments, motive a) →
      motive (.parameterized raw arguments))
    (typeVariable : ∀ name bounds, (∀ b ∈ bounds, motive b) →
      motive (.typeVariable name bounds))
    (intersection : ∀ bounds, (∀ b ∈ bounds, motive b) → motive (.intersection bounds)) :
    ∀ t, motive t :=
  @TypeName.rec motive (fun ts => ∀ t ∈ ts, motive t) primitive void null named array parameterized
    typeVariable intersection (fun _ h => nomatch h) fun _ _ ihHead ihTail t h => by
      cases h with
      | head => exact ihHead
      | tail _ h => exact ihTail t h

def children : TypeName → List TypeName
  | array component => [component]
  | parameterized _ arguments => arguments
  | typeVariable _ bounds => bounds
  | intersection bounds => bounds
  | _ => []

@[elab_as_elim]
theorem children_induct {motive : TypeName → Prop}
    (step : ∀ t, (∀ s ∈ t.children, motive s) → motive t) (t : TypeName) : motive t := by
  induction t with
  | array component ih =>
    apply step
    intro s hs
    cases List.mem_singleton.mp hs
    exact ih
  | parameterized raw arguments ih => exact step _ ih
  | typeVariable name bounds ih => exact step _ ih
  | intersection bounds ih => exact step _ ih
  | _ => exact step _ fun _ hs => nomatch hs

mutual

def beq : TypeName → TypeName → Bool
  | primitive p, primitive q => p == q
  | void, void => true
  | null, null => true
  | named c, named d => c == d
  | array s, array t => beq s t
  | parameterized c ss, parameterized d ts => c == d && beqAll ss ts
  | typeVariable n ss, typeVariable m ts => n == m && beqAll ss ts
  | intersection ss, intersection ts => beqAll ss ts
  | _, _ => false

def beqAll : List TypeName → List TypeName → Bool
  | [], [] => true
  | s :: ss, t :: ts => beq s t && beqAll ss ts
  | _, _ => false

end

theorem beqAll_iff {ss : List TypeName} (h : ∀ s ∈ ss, ∀ t, beq s t = true ↔ s = t)
    (ts : List TypeName) : beqAll ss ts = true ↔ ss = ts := by
  induction ss generalizing ts with
  | nil => cases ts <;> simp [beqAll]
  | cons s ss ih =>
    cases ts with
    | nil => simp [beqAll]
    | cons t ts => simp [beqAll, h s (by simp), ih (fun r hr => h r (by simp [hr]))]

theorem beq_iff (s t : TypeName) : beq s t = true ↔ s = t := by
  induction s generalizing t with
  | array c ih => cases t <;> simp [beq, ih]
  | parameterized c ss ih => cases t <;> simp [beq, beqAll_iff ih]
  | typeVariable n ss ih => cases t <;> simp [beq, beqAll_iff ih]
  | intersection ss ih => cases t <;> simp [beq, beqAll_iff ih]
  | _ => cases t <;> simp [beq]

instance : DecidableEq TypeName := fun s t => decidable_of_iff _ (beq_iff s t)

def applied (raw : ClassName) (arguments : List TypeName) : Except NameError TypeName :=
  if arguments.isEmpty then .error (.noArguments raw.canonicalName)
  else .ok (parameterized raw arguments)

def meet (bounds : List TypeName) : Except NameError TypeName :=
  if bounds.length < 2 then .error (.tooFewBounds bounds.length) else .ok (intersection bounds)

theorem applied_eq_ok_iff {raw : ClassName} {arguments : List TypeName} {t : TypeName} :
    applied raw arguments = .ok t ↔ arguments ≠ [] ∧ t = parameterized raw arguments := by
  unfold applied
  split
  next h => simp_all
  next h =>
    have hne : arguments ≠ [] := by simpa using h
    simp [hne, eq_comm]

theorem meet_eq_ok_iff {bounds : List TypeName} {t : TypeName} :
    meet bounds = .ok t ↔ 2 ≤ bounds.length ∧ t = intersection bounds := by
  unfold meet
  split
  next h =>
    have hl : ¬ 2 ≤ bounds.length := by omega
    simp [hl]
  next h =>
    have hl : 2 ≤ bounds.length := by omega
    simp [hl, eq_comm]

def isPrimitive : TypeName → Bool
  | primitive _ => true
  | _ => false

def isArray : TypeName → Bool
  | array _ => true
  | _ => false

end TypeName

structure TypeVariable where
  name : String
  bounds : List TypeName
  deriving DecidableEq, Repr

def TypeVariable.unbounded (name : String) : TypeVariable := ⟨name, []⟩

def TypeVariable.isUnbounded (v : TypeVariable) : Bool := v.bounds.isEmpty

def TypeVariable.typeName (v : TypeVariable) : TypeName := .typeVariable v.name v.bounds

end JavaTypes
