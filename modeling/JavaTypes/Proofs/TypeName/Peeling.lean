import JavaTypes.Proofs.TypeName.Walk
import JavaTypes.TypeName.Dimensions

namespace JavaTypes.TypeName

def countFrom (k : Nat) : TypeName → Nat
  | array component => countFrom (k + 1) component
  | _ => k

theorem countFrom_eq (k : Nat) (t : TypeName) : countFrom k t = k + t.dimensions := by
  induction t generalizing k with
  | array component ih =>
    rw [countFrom, dimensions, ih]
    omega
  | _ => rfl

theorem dimensions_array (component : TypeName) :
    (array component).dimensions = countFrom 1 component := by
  rw [dimensions, countFrom_eq, Nat.add_comm]

def shells : Nat → TypeName → List TypeName
  | 0, _ => []
  | n + 1, t => arrayOf (n + 1) t :: shells n t

variable (n : Nat) (t : TypeName)

theorem length_shells : (shells n t).length = n := by
  induction n with
  | zero => rfl
  | succ n ih => rw [shells, List.length_cons, ih]

theorem nodes_arrayOf : (arrayOf n t).nodes = shells n t ++ t.nodes := by
  induction n with
  | zero => rfl
  | succ n ih =>
    rw [arrayOf, nodes, ih]
    rfl

theorem filterMap_shells {α : Type} {f : TypeName → Option α} (hf : ∀ c, f (array c) = none) :
    (shells n t).filterMap f = [] := by
  induction n with
  | zero => rfl
  | succ n ih => rw [shells, arrayOf, List.filterMap_cons_none (hf _), ih]

theorem filterMap_nodes_arrayOf {α : Type} {f : TypeName → Option α}
    (hf : ∀ c, f (array c) = none) : (arrayOf n t).nodes.filterMap f = t.nodes.filterMap f := by
  rw [nodes_arrayOf, List.filterMap_append, filterMap_shells n t hf, List.nil_append]

theorem referencedClasses_arrayOf : (arrayOf n t).referencedClasses = t.referencedClasses := by
  unfold referencedClasses
  rw [filterMap_nodes_arrayOf n t fun _ => rfl]

theorem primitives_arrayOf : (arrayOf n t).primitives = t.primitives := by
  unfold primitives
  rw [filterMap_nodes_arrayOf n t fun _ => rfl]

theorem walk_arrayOf {σ : Type} (visit : σ → TypeName → σ) (s : σ) :
    (arrayOf n t).walk visit s = t.walk visit ((shells n t).foldl visit s) := by
  rw [walk_eq_foldl, walk_eq_foldl, nodes_arrayOf, List.foldl_append]

theorem walk_counting : t.walk (fun k _ => k + 1) 0 = t.nodes.length := by
  rw [walk_eq_foldl, List.foldl_add_const, Nat.zero_add, Nat.one_mul]

theorem walk_counting_arrayOf :
    (arrayOf n t).walk (fun k _ => k + 1) 0 = t.walk (fun k _ => k + 1) 0 + n := by
  rw [walk_counting, walk_counting, nodes_arrayOf, List.length_append, length_shells, Nat.add_comm]

theorem arrays_peeled :
    (∀ (t : TypeName) (n : Nat), t.isArray = false → 1 ≤ n →
      (arrayOf n t).isArray = true ∧ (arrayOf n t).dimensions = n ∧
      (arrayOf n t).elementType = t ∧
      ((arrayOf n t).walk (fun k _ => k + 1) 0 = t.walk (fun k _ => k + 1) 0 + n ∧
        ∀ (σ : Type) (visit : σ → TypeName → σ) (s : σ),
          (arrayOf n t).walk visit s = t.walk visit ((shells n t).foldl visit s)) ∧
      (arrayOf n t).referencedClasses = t.referencedClasses ∧
      (arrayOf n t).primitives = t.primitives) ∧
    ∀ component : TypeName,
      (array component).dimensions = countFrom 1 component ∧
      arrayOf (array component).dimensions (array component).elementType = array component ∧
      (array component).elementType.isArray = false := by
  constructor
  · intro t n ht hn
    have ha : (arrayOf n t).isArray = true := by
      cases n with
      | zero => omega
      | succ n => rfl
    have hd : (arrayOf n t).dimensions = n := by
      rw [dimensions_arrayOf, dimensions_of_not_isArray ht, Nat.add_zero]
    have he : (arrayOf n t).elementType = t := by
      rw [elementType_arrayOf, elementType_of_not_isArray ht]
    exact ⟨ha, hd, he, ⟨walk_counting_arrayOf n t, fun _ => walk_arrayOf n t⟩,
      referencedClasses_arrayOf n t, primitives_arrayOf n t⟩
  · intro component
    exact ⟨dimensions_array component, arrayOf_dimensions_elementType _, isArray_elementType _⟩

theorem intArrayLists_peeled :
    (parameterized (.javaLang "List") [array (.primitive .int)]).isArray = false ∧ 1 ≤ 2 ∧
    (arrayOf 2 (parameterized (.javaLang "List") [array (.primitive .int)])).dimensions = 2 ∧
    (arrayOf 2 (parameterized (.javaLang "List") [array (.primitive .int)])).elementType =
      parameterized (.javaLang "List") [array (.primitive .int)] ∧
    (arrayOf 2 (parameterized (.javaLang "List") [array (.primitive .int)])).walk
      (fun k _ => k + 1) 0 = 5 := by
  obtain ⟨-, hd, he, ⟨hw, -⟩, -⟩ := arrays_peeled.1
    (parameterized (.javaLang "List") [array (.primitive .int)]) 2 rfl (by decide)
  exact ⟨rfl, by decide, hd, he, hw⟩

end JavaTypes.TypeName
