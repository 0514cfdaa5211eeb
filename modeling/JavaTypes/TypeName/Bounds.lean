import JavaTypes.TypeName.Nodes
import JavaTypes.TypeName.Render
import JavaTypes.Model.Kind

namespace JavaTypes.TypeName

mutual

def withoutBounds : TypeName → TypeName
  | array component => array (withoutBounds component)
  | parameterized raw arguments => parameterized raw (withoutBoundsAll arguments)
  | typeVariable name _ => typeVariable name []
  | intersection bounds => intersection (withoutBoundsAll bounds)
  | t => t

def withoutBoundsAll : List TypeName → List TypeName
  | [] => []
  | t :: ts => withoutBounds t :: withoutBoundsAll ts

end

mutual

/-- The type in which a variable bounded by one intersection is bounded by its parts instead. -/
def spread : TypeName → TypeName
  | array component => array (spread component)
  | parameterized raw arguments => parameterized raw (spreadAll arguments)
  | typeVariable name [intersection parts] => typeVariable name (spreadAll parts)
  | typeVariable name bounds => typeVariable name (spreadAll bounds)
  | intersection bounds => intersection (spreadAll bounds)
  | t => t

def spreadAll : List TypeName → List TypeName
  | [] => []
  | t :: ts => spread t :: spreadAll ts

end

theorem withoutBoundsAll_eq_map (ts : List TypeName) :
    withoutBoundsAll ts = ts.map withoutBounds := by
  induction ts with
  | nil => rfl
  | cons t ts ih => simp [withoutBoundsAll, ih]

theorem spreadAll_eq_map (ts : List TypeName) : spreadAll ts = ts.map spread := by
  induction ts with
  | nil => rfl
  | cons t ts ih => simp [spreadAll, ih]

theorem render_withoutBounds (t : TypeName) : t.withoutBounds.render = t.render := by
  induction t with
  | array component ih => simp [withoutBounds, render, ih]
  | parameterized raw arguments ih =>
    simp only [withoutBounds, render, renderAll_eq_map, withoutBoundsAll_eq_map, List.map_map]
    rw [List.map_congr_left (f := render ∘ withoutBounds) ih]
  | intersection bounds ih =>
    simp only [withoutBounds, render, renderAll_eq_map, withoutBoundsAll_eq_map, List.map_map]
    rw [List.map_congr_left (f := render ∘ withoutBounds) ih]
  | _ => simp [withoutBounds, render]

theorem spread_typeVariable (name : String) (bounds : List TypeName) :
    ∃ bounds', spread (typeVariable name bounds) = typeVariable name bounds' := by
  unfold spread
  split <;> simp_all

theorem render_spread (t : TypeName) : t.spread.render = t.render := by
  induction t with
  | array component ih => simp [spread, render, ih]
  | parameterized raw arguments ih =>
    simp only [spread, render, renderAll_eq_map, spreadAll_eq_map, List.map_map]
    rw [List.map_congr_left (f := render ∘ spread) ih]
  | typeVariable name bounds ih =>
    obtain ⟨bounds', h⟩ := spread_typeVariable name bounds
    rw [h, render, render]
  | intersection bounds ih =>
    simp only [spread, render, renderAll_eq_map, spreadAll_eq_map, List.map_map]
    rw [List.map_congr_left (f := render ∘ spread) ih]
  | _ => simp [spread, render]

/-- What a convention allows as the bounds of one variable. The bound `java.lang.Object` is left
out under both. -/
def BoundsForm (convention : Convention) (bounds : List TypeName) : Prop :=
  bounds ≠ [named .object] ∧
    match convention with
    | .flatten => ∀ parts, bounds ≠ [intersection parts]
    | .wrap => bounds.length ≤ 1

def InForm (convention : Convention) (t : TypeName) : Prop :=
  ∀ name bounds, typeVariable name bounds ∈ t.nodes → BoundsForm convention bounds

section InForm

variable {convention : Convention}

theorem inForm_iff (t : TypeName) : t.InForm convention ↔
    (∀ name bounds, t = typeVariable name bounds → BoundsForm convention bounds) ∧
      ∀ s ∈ t.children, s.InForm convention := by
  simp only [InForm, t.nodes_eq, List.mem_cons, List.mem_flatMap]
  constructor
  · intro h
    refine ⟨fun name bounds ht => h name bounds (.inl ht.symm), ?_⟩
    exact fun s hs name bounds hn => h name bounds (.inr ⟨s, hs, hn⟩)
  · rintro ⟨ht, hc⟩ name bounds (h | ⟨s, hs, hn⟩)
    · exact ht name bounds h.symm
    · exact hc s hs name bounds hn

@[simp] theorem inForm_primitive (p : Primitive) : (primitive p).InForm convention := by
  rw [inForm_iff]
  simp [children]

@[simp] theorem inForm_void : void.InForm convention := by
  rw [inForm_iff]
  simp [children]

@[simp] theorem inForm_null : null.InForm convention := by
  rw [inForm_iff]
  simp [children]

@[simp] theorem inForm_named (c : ClassName) : (named c).InForm convention := by
  rw [inForm_iff]
  simp [children]

@[simp] theorem inForm_array {component : TypeName} :
    (array component).InForm convention ↔ component.InForm convention := by
  rw [inForm_iff]
  simp [children]

@[simp] theorem inForm_parameterized {raw : ClassName} {arguments : List TypeName} :
    (parameterized raw arguments).InForm convention ↔
      ∀ a ∈ arguments, a.InForm convention := by
  rw [inForm_iff]
  simp [children]

@[simp] theorem inForm_typeVariable {name : String} {bounds : List TypeName} :
    (typeVariable name bounds).InForm convention ↔
      BoundsForm convention bounds ∧ ∀ b ∈ bounds, b.InForm convention := by
  rw [inForm_iff]
  simp [children]

@[simp] theorem inForm_intersection {bounds : List TypeName} :
    (intersection bounds).InForm convention ↔ ∀ b ∈ bounds, b.InForm convention := by
  rw [inForm_iff]
  simp [children]

end InForm

end JavaTypes.TypeName
