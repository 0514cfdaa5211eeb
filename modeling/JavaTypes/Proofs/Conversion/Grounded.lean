import Mathlib.Order.WellFounded
import JavaTypes.Proofs.Conversion.Invariant
import JavaTypes.Proofs.Conversion.Similarity
import JavaTypes.Proofs.Conversion.Termination
import JavaTypes.Proofs.Conversion.WellFormed

namespace JavaTypes.TypeModel

variable {T E : Type} {m : TypeModel T E} {t : T}

theorem leads_typeVariable (k : m.kind t = .typeVariable) {s : T} :
    m.Leads t s ↔ m.upperBound? t = some s := by
  constructor
  · intro h
    cases h with
    | inside h => exact absurd h (not_inside (by simp [k]) (by simp [k]) (by simp [k]))
    | bound _ h => exact h
  · exact .bound k

theorem Grounded.of_leads (h : m.Grounded t) {s : T} (hs : Relation.TransGen m.Leads t s) :
    m.Grounded s :=
  Acc.inv_of_transGen h (Relation.transGen_swap.mpr hs)

theorem Grounded.induct {P : T → Prop} (h : m.Grounded t)
    (step : ∀ t, m.Grounded t → (∀ s, Relation.TransGen m.Leads t s → P s) → P t) : P t := by
  have hacc := h.transGen
  induction hacc with
  | intro t _ ih =>
    refine step t h fun s hs => ?_
    exact ih s (Relation.transGen_swap.mpr hs) (h.of_leads hs)

theorem Grounded.no_return (h : m.Grounded t) : ¬ Relation.TransGen m.Leads t t := by
  apply h.induct
  intro t _ ih ht
  exact ih t ht ht

theorem Grounded.element_ne (h : m.Grounded t) (hm : m.Coherent) {e : E}
    (k : m.kind t = .typeVariable) (he : m.element? t = some e) {u : T}
    (hu : Relation.TransGen m.Leads t u) (ku : m.kind u = .typeVariable) :
    m.element? u ≠ some e := by
  intro hue
  obtain ⟨b, hb, hbu⟩ := Relation.TransGen.head'_iff.mp hu
  have hub : m.Leads u b := by
    rw [leads_typeVariable ku, hm u t e ku k hue he]
    exact (leads_typeVariable k).mp hb
  exact (h.of_leads (.single hb)).no_return (.tail' hbu hub)

section Similar

variable {T' E' : Type} {m' : TypeModel T' E'} {S : T → T' → Prop} {U : E → E' → Prop} {t' : T'}

theorem Similar.leads (h : m.Similar m' S U) (ht : S t t') {s' : T'} (hs : m'.Leads t' s') :
    ∃ s, m.Leads t s ∧ S s s' := by
  cases hs with
  | inside hs =>
    cases hs with
    | component k hc =>
      obtain ⟨s, hs, hS⟩ := optionRel_some (optionRel_flip (h.component ht)) hc
      exact ⟨s, .inside (.component ((h.kind ht).trans k) hs), hS⟩
    | argument k ha =>
      obtain ⟨s, hs, hS⟩ := exists_left_of_mem (h.arguments ht) ha
      exact ⟨s, .inside (.argument ((h.kind ht).trans k) hs), hS⟩
    | part k hp =>
      obtain ⟨s, hs, hS⟩ := exists_left_of_mem (h.parts ht) hp
      exact ⟨s, .inside (.part ((h.kind ht).trans k) hs), hS⟩
  | bound k hb =>
    obtain ⟨s, hs, hS⟩ := optionRel_some (optionRel_flip (h.upperBound ht)) hb
    exact ⟨s, .bound ((h.kind ht).trans k) hs, hS⟩

theorem Similar.grounded (h : m.Similar m' S U) (ht : S t t') (hg : m.Grounded t) :
    m'.Grounded t' := by
  induction hg generalizing t' with
  | intro t _ ih =>
    constructor
    intro s' hs
    obtain ⟨s, hs, hS⟩ := h.leads ht hs
    exact ih s hs hS

end Similar

variable [DecidableEq E] {convention : Convention}

theorem ends_of_grounded (hE : WellFounded m.Encloses) (h : m.Grounded t) (p : Progress E) :
    m.Ends convention t p := by
  revert p
  apply h.induct
  intro t _ ih p
  apply ends_of_below hE
  · intro s hs q _
    exact ih s (.single (.inside hs)) q
  · intro e b k _ _ hb s hs q _
    have hlead : m.Leads t b := .bound k hb
    obtain rfl | hs := hs
    · exact ih s (.single hlead) q
    · exact ih s (.tail (.single hlead) (.inside hs)) q

end JavaTypes.TypeModel
