import JavaTypes.Proofs.Conversion.Invariant
import JavaTypes.TypeName.Nodes

namespace JavaTypes.TypeModel

variable {T E : Type} {m : TypeModel T E}

theorem HasName.valid {e : E} {c : ClassName} (h : m.HasName e (.ok c)) : c.Valid := by
  obtain ⟨package, outer, -, hc⟩ := hasName_ok_iff.mp h
  exact ClassName.make_valid hc

theorem Leaf.valid {t : T} {a : TypeName} (h : m.Leaf m.HasName t a) : a.Valid := by
  cases h with
  | named k he hc ha => exact TypeName.valid_named.mpr hc.valid
  | _ => simp

theorem valid_of_forall₂ {ts : List T} {as : List TypeName}
    (h : List.Forall₂ (fun _ a => a.Valid) ts as) : ∀ a ∈ as, a.Valid := by
  intro a ha
  obtain ⟨_, _, hv⟩ := exists_left_of_mem h ha
  exact hv

theorem valid_invariant {convention : Convention} :
    m.Invariant convention (fun _ a => a.Valid) fun _ v => v.typeName.Valid where
  leaf h := h.valid
  array _ _ ha := TypeName.valid_array.mpr ha
  applied {_ _ _ as} _ _ hc hne ha := by
    have hl : as ≠ [] := by
      rintro rfl
      exact hne (List.forall₂_nil_right_iff.mp ha)
    exact TypeName.valid_parameterized.mpr ⟨⟨hc.valid, hl⟩, valid_of_forall₂ ha⟩
  parts _ ha hl := TypeName.valid_intersection.mpr ⟨hl, valid_of_forall₂ ha⟩
  known _ _ hv := hv
  placeholder _ _ := TypeName.valid_typeVariable.mpr fun _ hb => nomatch hb
  meet {_ _ _ as} _ _ _ _ ha hl := by
    have hv := valid_of_forall₂ ha
    apply TypeName.valid_typeVariable.mpr
    cases convention with
    | flatten => exact hv
    | wrap =>
      intro s hs
      cases List.mem_singleton.mp hs
      exact TypeName.valid_intersection.mpr ⟨hl, hv⟩
  plain _ _ _ _ ha := by
    apply TypeName.valid_typeVariable.mpr
    intro s hs
    cases List.mem_singleton.mp hs
    exact ha

theorem Succeeds.valid [DecidableEq E] {convention : Convention} {t : T} {a : TypeName}
    {q : Progress E} (h : m.Succeeds convention t .start a q) : a.Valid :=
  (valid_invariant.holds h .start).1

end JavaTypes.TypeModel
