import JavaTypes.Proofs.Conversion.Invariant
import JavaTypes.Proofs.Conversion.Tables
import JavaTypes.Proofs.Conversion.WellFormed
import JavaTypes.TypeName.Bounds

namespace JavaTypes.TypeModel

variable {T E : Type} {m : TypeModel T E} {convention : Convention}

structure Formed (m : TypeModel T E) (convention : Convention) (t : T) (a : TypeName) : Prop where
  inForm : a.InForm convention
  intersection {parts} : a = .intersection parts → m.kind t = .intersection
  object : a = .named .object → m.IsObject t

theorem Leaf.formed {t : T} {a : TypeName} (h : m.Leaf m.HasName t a) :
    m.Formed convention t a := by
  cases h with
  | named k he hc ha =>
    refine ⟨TypeName.inForm_named _, nofun, fun ho => ?_⟩
    cases ho
    exact ⟨k, ha, _, he, hc⟩
  | primitive | void | null => exact ⟨by simp, nofun, nofun⟩

theorem inForm_of_forall₂ {ts : List T} {as : List TypeName}
    (h : List.Forall₂ (m.Formed convention) ts as) : ∀ a ∈ as, a.InForm convention := by
  intro a ha
  obtain ⟨t, -, hf⟩ := exists_left_of_mem h ha
  exact hf.inForm

theorem boundsForm_nil : TypeName.BoundsForm convention [] := by
  cases convention with
  | flatten => exact ⟨nofun, nofun⟩
  | wrap => exact ⟨nofun, Nat.zero_le 1⟩

theorem boundsForm_bounds {as : List TypeName} (h : 2 ≤ as.length) :
    TypeName.BoundsForm convention (convention.bounds as) := by
  cases convention with
  | flatten =>
    have single (a : TypeName) : as ≠ [a] := by
      rintro rfl
      simp at h
    exact ⟨single _, fun parts => single _⟩
  | wrap => exact ⟨nofun, Nat.le_refl 1⟩

theorem Formed.boundsForm {b : T} {a : TypeName} (h : m.Formed convention b a)
    (hb : m.PlainBound m.HasName b) : TypeName.BoundsForm convention [a] := by
  have hi (parts : List TypeName) : [a] ≠ [.intersection parts] := by
    intro ha
    exact hb.1 (h.intersection (List.singleton_inj.mp ha))
  have ho : [a] ≠ [.named .object] := by
    intro ha
    exact hb.not_isObject (h.object (List.singleton_inj.mp ha))
  cases convention with
  | flatten => exact ⟨ho, hi⟩
  | wrap => exact ⟨ho, Nat.le_refl 1⟩

theorem formed_invariant :
    m.Invariant convention (m.Formed convention) fun _ v => v.typeName.InForm convention where
  leaf h := h.formed
  array _ _ ha := ⟨TypeName.inForm_array.mpr ha.inForm, nofun, nofun⟩
  applied _ _ _ _ ha := ⟨TypeName.inForm_parameterized.mpr (inForm_of_forall₂ ha), nofun, nofun⟩
  parts k ha _ := ⟨TypeName.inForm_intersection.mpr (inForm_of_forall₂ ha), fun _ => k, nofun⟩
  known _ _ hv := ⟨hv, nofun, nofun⟩
  placeholder _ _ := TypeName.inForm_typeVariable.mpr ⟨boundsForm_nil, nofun⟩
  meet _ _ _ _ ha hl := by
    refine TypeName.inForm_typeVariable.mpr ⟨boundsForm_bounds hl, ?_⟩
    have has := inForm_of_forall₂ ha
    cases convention with
    | flatten => exact has
    | wrap =>
      intro b hb
      cases List.mem_singleton.mp hb
      exact TypeName.inForm_intersection.mpr has
  plain _ _ _ hb ha := by
    refine TypeName.inForm_typeVariable.mpr ⟨ha.boundsForm hb, ?_⟩
    intro b hm
    cases List.mem_singleton.mp hm
    exact ha.inForm

variable [DecidableEq E]

theorem report_inForm {s : Settings} {n : Nat} {t : T} {a : TypeName}
    (h : (m.report s n t).result = .ok a) : a.InForm (s.effective m.convention) := by
  obtain ⟨q, hy⟩ := report_ok h
  have hs : m.Succeeds (s.effective m.convention) t .start a q := ⟨n, hy⟩
  exact (formed_invariant.holds hs .start).1.inForm

theorem mutualBounds_inForm :
    (Table.mutualBounds.model.report .default 10 0).result = .ok Table.mutualBoundsName ∧
    Table.mutualBoundsName.InForm .wrap ∧ ¬ Table.mutualBoundsName.InForm .flatten := by
  refine ⟨Table.report_mutualBounds, report_inForm Table.report_mutualBounds, fun h => ?_⟩
  have hb := h "B" [.intersection [Table.comparable "A", Table.comparable "B"]] (by decide)
  exact hb.2 _ rfl

end JavaTypes.TypeModel
