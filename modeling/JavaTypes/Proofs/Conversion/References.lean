import JavaTypes.Proofs.Conversion.Exploration
import JavaTypes.Proofs.Conversion.Invariant
import JavaTypes.Proofs.Conversion.Tables

namespace JavaTypes.TypeModel

variable {T E : Type} {m : TypeModel T E}

structure Origin (m : TypeModel T E) (t : T) (n : TypeName) : Prop where
  classes {c} : n.class? = some c → m.HasClass t c
  primitives {x} : n.primitive? = some x → m.kind t = .primitive x

def Sourced (m : TypeModel T E) (t : T) (a : TypeName) : Prop :=
  ∀ n ∈ a.nodes, ∃ u, m.Reaches t u ∧ m.Origin u n

theorem Sourced.of_visits {s t : T} {a : TypeName} (h : m.Sourced s a) (hv : m.Visits t s) :
    m.Sourced t a := by
  intro n hn
  obtain ⟨u, hu, ho⟩ := h n hn
  exact ⟨u, hu.head hv, ho⟩

theorem sourced_of_children {t : T} {a : TypeName} (h : m.Origin t a)
    (hc : ∀ s ∈ a.children, m.Sourced t s) : m.Sourced t a :=
  TypeName.forall_mem_nodes.mpr ⟨⟨t, .refl, h⟩, hc⟩

theorem Sourced.of_forall₂ {t : T} {ts : List T} {as : List TypeName}
    (h : List.Forall₂ m.Sourced ts as) (hv : ∀ s ∈ ts, m.Visits t s) :
    ∀ a ∈ as, m.Sourced t a := by
  intro a ha
  obtain ⟨s, hs, hsa⟩ := exists_left_of_mem h ha
  exact hsa.of_visits (hv s hs)

theorem Leaf.sourced {t : T} {a : TypeName} (h : m.Leaf m.HasName t a) : m.Sourced t a := by
  cases h with
  | primitive k =>
    refine sourced_of_children ⟨nofun, fun hx => ?_⟩ nofun
    cases hx
    exact k
  | void k | null k => exact sourced_of_children ⟨nofun, nofun⟩ nofun
  | named k he hc =>
    refine sourced_of_children ⟨fun hx => ?_, nofun⟩ nofun
    cases hx
    exact ⟨k, _, he, hc⟩

theorem sourced_typeVariable {t : T} (name : String) {bounds : List TypeName}
    (h : ∀ b ∈ bounds, m.Sourced t b) : m.Sourced t (.typeVariable name bounds) :=
  sourced_of_children ⟨nofun, nofun⟩ h

theorem sourced_invariant (hm : m.Coherent) {convention : Convention} :
    m.Invariant convention m.Sourced fun e v =>
      ∀ t, m.kind t = .typeVariable → m.element? t = some e → m.Sourced t v.typeName where
  leaf h := h.sourced
  array k hc h := by
    refine sourced_of_children ⟨nofun, nofun⟩ fun s hs => ?_
    cases List.mem_singleton.mp hs
    exact h.of_visits (.inside (.component k hc))
  applied k he hc _ h := by
    refine sourced_of_children ⟨fun hx => ?_, nofun⟩ ?_
    · cases hx
      exact ⟨k, _, he, hc⟩
    · exact Sourced.of_forall₂ h fun s hs => .inside (.argument k hs)
  parts k h _ :=
    sourced_of_children ⟨nofun, nofun⟩ (Sourced.of_forall₂ h fun s hs => .inside (.part k hs))
  known k he hv := hv _ k he
  -- An entry made from one handle is looked up from others, which have the same bound.
  placeholder _ _ _ _ _ := sourced_typeVariable _ nofun
  meet {t e b as} k he hb kb h _ s ks hs := by
    rw [hm t s e k ks he hs] at hb
    have ho : ¬ m.IsObject b := by
      rintro ⟨k', -⟩
      rw [kb] at k'
      cases k'
    have hv : ∀ a ∈ as, m.Sourced b a :=
      Sourced.of_forall₂ h fun u hu => .inside (.part kb hu)
    apply sourced_typeVariable
    cases convention with
    | flatten => exact fun a ha => (hv a ha).of_visits (.bound ks hb ho)
    | wrap =>
      have hi : m.Sourced b (.intersection as) := sourced_of_children ⟨nofun, nofun⟩ hv
      intro a ha
      cases List.mem_singleton.mp ha
      exact hi.of_visits (.bound ks hb ho)
  plain {t e b a} k he hb ho h s ks hs := by
    rw [hm t s e k ks he hs] at hb
    apply sourced_typeVariable
    intro a' ha
    cases List.mem_singleton.mp ha
    exact h.of_visits (.bound ks hb ho.not_isObject)

variable [DecidableEq E]

theorem references_of_report {s : Settings} {n : Nat} {t : T} {a : TypeName} (hm : m.Coherent)
    (h : (m.report s n t).result = .ok a) :
    (∀ c, c ∈ a.referencedClasses ↔ ∃ u, m.Reaches t u ∧ m.HasClass u c) ∧
    ∀ x, x ∈ a.primitives ↔ ∃ u, m.Reaches t u ∧ m.kind u = .primitive x := by
  obtain ⟨q, hy⟩ := report_ok h
  have hs : m.Succeeds (s.effective m.convention) t .start a q := ⟨n, hy⟩
  have sourced : m.Sourced t a := ((sourced_invariant hm).holds hs .start).1
  obtain ⟨V, ht, hV⟩ := hs.explores
  have shown {u : T} (hu : m.Reaches t u) : m.Shown a.nodes u :=
    hV.shown (hV.mem_of_reaches hm ht hu)
  constructor
  · intro c
    rw [TypeName.mem_referencedClasses]
    constructor
    · rintro ⟨n, hn, hc⟩
      obtain ⟨u, hu, ho⟩ := sourced n hn
      exact ⟨u, hu, ho.classes hc⟩
    · rintro ⟨u, hu, hc⟩
      exact (shown hu).classes hc
  · intro x
    rw [TypeName.mem_primitives]
    constructor
    · rintro ⟨n, hn, hx⟩
      obtain ⟨u, hu, ho⟩ := sourced n hn
      exact ⟨u, hu, ho.primitives hx⟩
    · rintro ⟨u, hu, hx⟩
      exact (shown hu).primitives hx

theorem mutualBounds_references :
    Table.mutualBounds.model.Coherent ∧
    (Table.mutualBounds.model.report .default 10 0).result = .ok Table.mutualBoundsName ∧
    (∀ c, c ∈ Table.mutualBoundsName.referencedClasses ↔
      ∃ u, Table.mutualBounds.model.Reaches 0 u ∧ Table.mutualBounds.model.HasClass u c) ∧
    ∀ x, x ∈ Table.mutualBoundsName.primitives ↔
      ∃ u, Table.mutualBounds.model.Reaches 0 u ∧
        Table.mutualBounds.model.kind u = .primitive x :=
  ⟨Table.mutualBounds_coherent, Table.report_mutualBounds,
    references_of_report Table.mutualBounds_coherent Table.report_mutualBounds⟩

end JavaTypes.TypeModel
