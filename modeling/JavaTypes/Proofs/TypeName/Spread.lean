import Mathlib.Data.List.Basic
import JavaTypes.TypeName.Bounds

namespace JavaTypes.TypeName

theorem spread_typeVariable_intersection (name : String) (parts : List TypeName) :
    spread (typeVariable name [intersection parts]) = typeVariable name (parts.map spread) := by
  rw [spread, spreadAll_eq_map]

theorem spread_typeVariable_of_ne (name : String) {bounds : List TypeName}
    (h : ∀ parts, bounds ≠ [intersection parts]) :
    spread (typeVariable name bounds) = typeVariable name (bounds.map spread) := by
  rw [spread, spreadAll_eq_map]
  intro parts hp
  exact h parts hp

theorem children_spread {t : TypeName}
    (h : ∀ name parts, t ≠ typeVariable name [intersection parts]) :
    t.spread.children = t.children.map spread := by
  cases t with
  | parameterized raw arguments => rw [spread, spreadAll_eq_map]; rfl
  | typeVariable name bounds =>
    rw [spread_typeVariable_of_ne name fun parts hp => h name parts (hp ▸ rfl)]
    rfl
  | intersection bounds => rw [spread, spreadAll_eq_map]; rfl
  | _ => rfl

theorem class?_spread (t : TypeName) : t.spread.class? = t.class? := by
  cases t with
  | typeVariable name bounds =>
    obtain ⟨bounds', h⟩ := spread_typeVariable name bounds
    rw [h]
    rfl
  | _ => rfl

theorem primitive?_spread (t : TypeName) : t.spread.primitive? = t.primitive? := by
  cases t with
  | typeVariable name bounds =>
    obtain ⟨bounds', h⟩ := spread_typeVariable name bounds
    rw [h]
    rfl
  | _ => rfl

theorem map_render_spread (ts : List TypeName) : ts.map (render ∘ spread) = ts.map render :=
  List.map_congr_left fun t _ => render_spread t

def declaration? (t : TypeName) : Option String := t.typeVariable?.map TypeVariable.declaration

theorem declaration?_spread {t : TypeName} (ht : t.Valid) :
    t.spread.declaration? = t.declaration? := by
  cases t with
  | typeVariable name bounds =>
    by_cases h : ∃ parts, bounds = [intersection parts]
    · obtain ⟨parts, rfl⟩ := h
      have hp : 2 ≤ parts.length :=
        (valid_intersection.mp (valid_typeVariable.mp ht _ List.mem_cons_self)).1
      have hne : parts ≠ [] := by
        rintro rfl
        simp at hp
      rw [spread_typeVariable_intersection]
      simp [declaration?, typeVariable?, TypeVariable.declaration, TypeVariable.isUnbounded, hne,
        map_render_spread, render, renderAll_eq_map]
    · rw [spread_typeVariable_of_ne name fun parts hp => h ⟨parts, hp⟩]
      simp [declaration?, typeVariable?, TypeVariable.declaration, TypeVariable.isUnbounded,
        map_render_spread]
  | _ => rfl

section Nodes

variable {β : Type} {f : TypeName → Option β}

theorem filterMap_flatMap_spread {ts : List TypeName}
    (h : ∀ t ∈ ts, t.spread.nodes.filterMap f = t.nodes.filterMap f) :
    ((ts.map spread).flatMap nodes).filterMap f = (ts.flatMap nodes).filterMap f := by
  rw [List.flatMap_map, List.filterMap_flatMap, List.filterMap_flatMap]
  exact List.flatMap_congr h

theorem filterMap_nodes_spread (hi : ∀ parts, f (intersection parts) = none) {t : TypeName}
    (h : ∀ n ∈ t.nodes, f n.spread = f n) : t.spread.nodes.filterMap f = t.nodes.filterMap f := by
  induction t using children_induct with
  | step t ih =>
    obtain ⟨ht, hc⟩ := forall_mem_nodes.mp h
    have below : ∀ s ∈ t.children, s.spread.nodes.filterMap f = s.nodes.filterMap f :=
      fun s hs => ih s hs (hc s hs)
    suffices hs : (t.spread.children.flatMap nodes).filterMap f =
        (t.children.flatMap nodes).filterMap f by
      rw [nodes_eq t.spread, nodes_eq t, List.filterMap_cons, List.filterMap_cons, ht, hs]
    by_cases hp : ∃ name parts, t = typeVariable name [intersection parts]
    · obtain ⟨name, parts, rfl⟩ := hp
      have hs := below (intersection parts) List.mem_cons_self
      rw [spread, nodes_eq, List.filterMap_cons_none (hi _)] at hs
      rw [spread_typeVariable_intersection, ← spreadAll_eq_map]
      simpa only [children, List.flatMap_cons, List.flatMap_nil, List.append_nil] using hs
    · rw [children_spread fun name parts h => hp ⟨name, parts, h⟩]
      exact filterMap_flatMap_spread below

end Nodes

theorem referencedClasses_spread (t : TypeName) :
    t.spread.referencedClasses = t.referencedClasses := by
  unfold referencedClasses
  rw [filterMap_nodes_spread (fun _ => rfl) fun n _ => n.class?_spread]

theorem primitives_spread (t : TypeName) : t.spread.primitives = t.primitives := by
  unfold primitives
  rw [filterMap_nodes_spread (fun _ => rfl) fun n _ => n.primitive?_spread]

theorem declarations_eq_filterMap (t : TypeName) :
    t.typeVariables.map TypeVariable.declaration = t.nodes.filterMap declaration? :=
  List.map_filterMap

theorem declarations_spread {t : TypeName} (ht : t.Valid) :
    t.spread.typeVariables.map TypeVariable.declaration =
      t.typeVariables.map TypeVariable.declaration := by
  rw [declarations_eq_filterMap, declarations_eq_filterMap]
  exact filterMap_nodes_spread (fun _ => rfl) fun n hn => declaration?_spread (ht.node n hn)

end JavaTypes.TypeName
