import JavaTypes.TypeName.Basic

namespace JavaTypes.TypeName

mutual

def nodes : TypeName → List TypeName
  | primitive p => [primitive p]
  | void => [void]
  | null => [null]
  | named c => [named c]
  | array component => array component :: nodes component
  | parameterized raw arguments => parameterized raw arguments :: nodesAll arguments
  | typeVariable name bounds => typeVariable name bounds :: nodesAll bounds
  | intersection bounds => intersection bounds :: nodesAll bounds

def nodesAll : List TypeName → List TypeName
  | [] => []
  | t :: ts => nodes t ++ nodesAll ts

end

theorem nodesAll_eq_flatMap (ts : List TypeName) : nodesAll ts = ts.flatMap nodes := by
  induction ts with
  | nil => rfl
  | cons t ts ih => simp [nodesAll, ih]

theorem nodes_eq (t : TypeName) : t.nodes = t :: t.children.flatMap nodes := by
  cases t <;> simp [nodes, children, nodesAll_eq_flatMap]

theorem self_mem_nodes (t : TypeName) : t ∈ t.nodes := by
  rw [nodes_eq]
  exact List.mem_cons_self

theorem nodes_of_children_subset (t : TypeName) : t.children.flatMap nodes ⊆ t.nodes := by
  rw [t.nodes_eq]
  exact List.subset_cons_self _ _

theorem nodes_subset {s t : TypeName} (hs : s ∈ t.children) : s.nodes ⊆ t.nodes :=
  fun _ hn => t.nodes_of_children_subset (List.mem_flatMap.mpr ⟨s, hs, hn⟩)

theorem nodes_trans {n s t : TypeName} (hs : s ∈ t.nodes) (hn : n ∈ s.nodes) : n ∈ t.nodes := by
  induction t using children_induct with
  | step t ih =>
    rw [nodes_eq, List.mem_cons, List.mem_flatMap] at hs
    obtain rfl | ⟨u, hu, hs⟩ := hs
    · exact hn
    · exact nodes_subset hu (ih u hu hs)

theorem forall_mem_nodes {t : TypeName} {P : TypeName → Prop} :
    (∀ n ∈ t.nodes, P n) ↔ P t ∧ ∀ s ∈ t.children, ∀ n ∈ s.nodes, P n := by
  rw [nodes_eq]
  simp only [List.forall_mem_cons, List.forall_mem_flatMap]

theorem sizeOf_lt_of_mem_children {s t : TypeName} (hs : s ∈ t.children) : sizeOf s < sizeOf t := by
  cases t with
  | array component =>
    cases List.mem_singleton.mp hs
    simp
  | parameterized raw arguments =>
    have hlt : sizeOf s < sizeOf arguments := List.sizeOf_lt_of_mem hs
    rw [parameterized.sizeOf_spec]
    omega
  | typeVariable name bounds =>
    have hlt : sizeOf s < sizeOf bounds := List.sizeOf_lt_of_mem hs
    rw [typeVariable.sizeOf_spec]
    omega
  | intersection bounds =>
    have hlt : sizeOf s < sizeOf bounds := List.sizeOf_lt_of_mem hs
    rw [intersection.sizeOf_spec]
    omega
  | _ => cases hs

theorem sizeOf_le_of_mem_nodes {n t : TypeName} (hn : n ∈ t.nodes) : sizeOf n ≤ sizeOf t := by
  induction t using children_induct with
  | step t ih =>
    rw [nodes_eq, List.mem_cons, List.mem_flatMap] at hn
    obtain rfl | ⟨s, hs, hn⟩ := hn
    · exact Nat.le_refl _
    · have := ih s hs hn
      have := sizeOf_lt_of_mem_children hs
      omega

theorem not_mem_nodes_of_child {s t : TypeName} (hs : s ∈ t.children) : t ∉ s.nodes := by
  intro ht
  have := sizeOf_le_of_mem_nodes ht
  have := sizeOf_lt_of_mem_children hs
  omega

def Sound : TypeName → Prop
  | named c => c.Valid
  | parameterized raw arguments => raw.Valid ∧ arguments ≠ []
  | intersection bounds => 2 ≤ bounds.length
  | _ => True

instance (t : TypeName) : Decidable t.Sound := by
  cases t <;> unfold Sound <;> infer_instance

def Valid (t : TypeName) : Prop := ∀ n ∈ t.nodes, n.Sound

instance (t : TypeName) : Decidable t.Valid := inferInstanceAs (Decidable (∀ n ∈ t.nodes, n.Sound))

theorem valid_iff (t : TypeName) : t.Valid ↔ t.Sound ∧ ∀ s ∈ t.children, s.Valid :=
  forall_mem_nodes

theorem Valid.node {t : TypeName} (h : t.Valid) : ∀ n ∈ t.nodes, n.Valid := by
  induction t using children_induct with
  | step t ih => exact forall_mem_nodes.mpr ⟨h, fun s hs => ih s hs (((valid_iff t).mp h).2 s hs)⟩

@[simp] theorem valid_primitive (p : Primitive) : (primitive p).Valid := by
  rw [valid_iff]
  simp [Sound, children]

@[simp] theorem valid_void : void.Valid := by
  rw [valid_iff]
  simp [Sound, children]

@[simp] theorem valid_null : null.Valid := by
  rw [valid_iff]
  simp [Sound, children]

@[simp] theorem valid_named {c : ClassName} : (named c).Valid ↔ c.Valid := by
  rw [valid_iff]
  simp [Sound, children]

@[simp] theorem valid_array {component : TypeName} :
    (array component).Valid ↔ component.Valid := by
  rw [valid_iff]
  simp [Sound, children]

@[simp] theorem valid_parameterized {raw : ClassName} {arguments : List TypeName} :
    (parameterized raw arguments).Valid ↔
      (raw.Valid ∧ arguments ≠ []) ∧ ∀ a ∈ arguments, a.Valid :=
  valid_iff _

@[simp] theorem valid_typeVariable {name : String} {bounds : List TypeName} :
    (typeVariable name bounds).Valid ↔ ∀ b ∈ bounds, b.Valid := by
  rw [valid_iff]
  simp [Sound, children]

@[simp] theorem valid_intersection {bounds : List TypeName} :
    (intersection bounds).Valid ↔ 2 ≤ bounds.length ∧ ∀ b ∈ bounds, b.Valid :=
  valid_iff _

def primitive? : TypeName → Option Primitive
  | primitive p => some p
  | _ => none

def class? : TypeName → Option ClassName
  | named c => some c
  | parameterized raw _ => some raw
  | _ => none

def typeVariable? : TypeName → Option TypeVariable
  | typeVariable name bounds => some ⟨name, bounds⟩
  | _ => none

def primitives (t : TypeName) : List Primitive := (t.nodes.filterMap primitive?).eraseDups

def referencedClasses (t : TypeName) : List ClassName := (t.nodes.filterMap class?).eraseDups

theorem mem_primitives {x : Primitive} {t : TypeName} :
    x ∈ t.primitives ↔ ∃ n ∈ t.nodes, n.primitive? = some x := by
  unfold primitives
  rw [List.mem_eraseDups, List.mem_filterMap]

theorem mem_referencedClasses {c : ClassName} {t : TypeName} :
    c ∈ t.referencedClasses ↔ ∃ n ∈ t.nodes, n.class? = some c := by
  unfold referencedClasses
  rw [List.mem_eraseDups, List.mem_filterMap]

def typeVariables (t : TypeName) : List TypeVariable := t.nodes.filterMap typeVariable?

end JavaTypes.TypeName
