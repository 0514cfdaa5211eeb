import JavaTypes.Proofs.Conversion.Exploration
import JavaTypes.Proofs.Conversion.Tables

namespace JavaTypes.TypeModel

variable {T E : Type} {m : TypeModel T E}

def Flawed (m : TypeModel T E) (t : T) : Prop :=
  ∃ u, Relation.ReflTransGen m.Leads t u ∧ ¬ m.WellFormed u

theorem Flawed.of_leads {s t : T} (h : m.Flawed s) (hs : m.Leads t s) : m.Flawed t := by
  obtain ⟨u, hu, hw⟩ := h
  exact ⟨u, hu.head hs, hw⟩

theorem flawed_of_not_wellFormed {t : T} (h : ¬ m.WellFormed t) : m.Flawed t := ⟨t, .refl, h⟩

section Steps

variable {R : T → Progress E → TypeName → Progress E → Prop} {t : T} {p q : Progress E}
  {err : ConversionError}

theorem exists_flawed_of_halts {ts : List T}
    (h : Halts R (fun s _ _ _ => m.Flawed s) ts p err q) : ∃ s ∈ ts, m.Flawed s := by
  induction h with
  | here h => exact ⟨_, List.mem_cons_self, h⟩
  | later _ _ ih =>
    obtain ⟨s, hs, hf⟩ := ih
    exact ⟨s, List.mem_cons_of_mem _ hs, hf⟩

theorem PartsFailure.flawed (k : m.kind t = .intersection)
    (h : m.PartsFailure R (fun s _ _ _ => m.Flawed s) t p err q) : m.Flawed t := by
  cases h with
  | part h =>
    obtain ⟨s, hs, hf⟩ := exists_flawed_of_halts h
    exact hf.of_leads (.inside (.part k hs))
  | tooFew h ha =>
    apply flawed_of_not_wellFormed
    rw [wellFormed_intersection k, ← h.length_eq]
    omega

theorem BoundsFailure.flawed {name : String} (k : m.kind t = .typeVariable)
    (h : m.BoundsFailure R (fun s _ _ _ => m.Flawed s) m.HasName name t p err q) :
    m.Flawed t := by
  cases h with
  | noBound hb =>
    apply flawed_of_not_wellFormed
    rw [wellFormed_typeVariable k, hb]
    simp
  | unnamed hb hu => exact (flawed_of_not_wellFormed hu.not_wellFormed).of_leads (.bound k hb)
  | parts hb kb hs => exact (PartsFailure.flawed kb hs).of_leads (.bound k hb)
  | plain hb _ hf => exact Flawed.of_leads hf (.bound k hb)

theorem Failure.flawed [DecidableEq E]
    (h : m.Failure R (fun s _ _ _ => m.Flawed s) m.HasName t p err q) : m.Flawed t := by
  cases h with
  | fault h => exact flawed_of_not_wellFormed h.not_wellFormed
  | array k hc hf => exact Flawed.of_leads hf (.inside (.component k hc))
  | applied k _ _ _ hs =>
    obtain ⟨s, hs, hf⟩ := exists_flawed_of_halts hs
    exact hf.of_leads (.inside (.argument k hs))
  | parts k hs => exact PartsFailure.flawed k hs
  | fresh k _ _ hs => exact BoundsFailure.flawed k hs

end Steps

variable [DecidableEq E]

theorem Fails.flawed {convention : Convention} {t : T} {p q : Progress E} {err : ConversionError}
    (h : m.Fails convention t p err q) : m.Flawed t :=
  h.induct (Q := fun t _ _ _ => m.Flawed t) Failure.flawed

theorem report_ok_iff_wellFormed {s : Settings} {n : Nat} {t : T} (hm : m.Coherent)
    (h : (m.report s n t).result ≠ .error .exhausted) :
    (∃ a, (m.report s n t).result = .ok a) ↔
      ∀ u, Relation.ReflTransGen m.Leads t u → m.WellFormed u := by
  constructor
  · rintro ⟨a, ha⟩ u hu
    obtain ⟨q, hy⟩ := report_ok ha
    have hs : m.Succeeds (s.effective m.convention) t .start a q := ⟨n, hy⟩
    obtain ⟨V, ht, hV⟩ := hs.explores
    exact hV.wellFormed_of_leads hm ht hu
  · intro hw
    obtain ⟨a, q, hy⟩ | ⟨err, q, hf⟩ := report_ends h
    · exact ⟨a, by rw [report_of_yields hy]⟩
    · have hf : m.Fails (s.effective m.convention) t .start err q := ⟨n, hf⟩
      obtain ⟨u, hu, hn⟩ := hf.flawed
      exact absurd (hw u hu) hn

theorem mutualBounds_wellFormed :
    Table.mutualBounds.model.Coherent ∧
    (Table.mutualBounds.model.report .default 10 0).result ≠ .error .exhausted ∧
    ∀ u, Relation.ReflTransGen Table.mutualBounds.model.Leads 0 u →
      Table.mutualBounds.model.WellFormed u := by
  have hm := Table.mutualBounds_coherent
  have hx : (Table.mutualBounds.model.report .default 10 0).result ≠ .error .exhausted := by
    rw [Table.report_mutualBounds]
    simp
  exact ⟨hm, hx, (report_ok_iff_wellFormed hm hx).mp ⟨_, Table.report_mutualBounds⟩⟩

end JavaTypes.TypeModel
