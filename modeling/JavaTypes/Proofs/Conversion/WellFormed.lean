import JavaTypes.Proofs.Conversion.Naming

namespace JavaTypes.TypeModel

variable {T E : Type} {m : TypeModel T E} {t : T}

section Inside

variable {s : T}

theorem inside_array (k : m.kind t = .array) : m.Inside s t ↔ m.component? t = some s := by
  constructor
  · intro h
    cases h with
    | component _ h => exact h
    | argument k' | part k' => rw [k] at k'; cases k'
  · exact .component k

theorem inside_declared (k : m.kind t = .declared) : m.Inside s t ↔ s ∈ m.arguments t := by
  constructor
  · intro h
    cases h with
    | argument _ h => exact h
    | component k' | part k' => rw [k] at k'; cases k'
  · exact .argument k

theorem inside_intersection (k : m.kind t = .intersection) : m.Inside s t ↔ s ∈ m.parts t := by
  constructor
  · intro h
    cases h with
    | part _ h => exact h
    | component k' | argument k' => rw [k] at k'; cases k'
  · exact .part k

theorem not_inside (ha : m.kind t ≠ .array) (hd : m.kind t ≠ .declared)
    (hi : m.kind t ≠ .intersection) : ¬ m.Inside s t := by
  intro h
  cases h with
  | component k => exact ha k
  | argument k => exact hd k
  | part k => exact hi k

end Inside

theorem wellFormed_primitive {x : Primitive} (k : m.kind t = .primitive x) : m.WellFormed t := by
  unfold WellFormed
  rw [k]
  trivial

theorem wellFormed_void (k : m.kind t = .void) : m.WellFormed t := by
  unfold WellFormed
  rw [k]
  trivial

theorem wellFormed_null (k : m.kind t = .null) : m.WellFormed t := by
  unfold WellFormed
  rw [k]
  trivial

theorem wellFormed_array (k : m.kind t = .array) :
    m.WellFormed t ↔ (m.component? t).isSome := by
  unfold WellFormed
  rw [k]

theorem wellFormed_declared (k : m.kind t = .declared) :
    m.WellFormed t ↔ ∃ c, m.HasClass t c := by
  unfold WellFormed
  simp only [k]
  constructor
  · rintro ⟨e, package, outer, c, he, hs, hc⟩
    exact ⟨c, k, e, he, hasName_ok_iff.mpr ⟨package, outer, hs, hc⟩⟩
  · rintro ⟨c, -, e, he, hc⟩
    obtain ⟨package, outer, hs, hc⟩ := hasName_ok_iff.mp hc
    exact ⟨e, package, outer, c, he, hs, hc⟩

theorem wellFormed_typeVariable (k : m.kind t = .typeVariable) :
    m.WellFormed t ↔ (m.element? t).isSome ∧ (m.upperBound? t).isSome := by
  unfold WellFormed
  rw [k]

theorem wellFormed_intersection (k : m.kind t = .intersection) :
    m.WellFormed t ↔ 2 ≤ (m.parts t).length := by
  unfold WellFormed
  rw [k]

theorem not_wellFormed_of_unsupported (k : (m.kind t).isSupported = false) :
    ¬ m.WellFormed t := by
  unfold WellFormed
  generalize m.kind t = kind at k
  cases kind <;> cases k <;> exact id

theorem HasClass.unique {c d : ClassName} (hc : m.HasClass t c) (hd : m.HasClass t d) : c = d := by
  obtain ⟨-, e, he, hc⟩ := hc
  obtain ⟨-, f, hf, hd⟩ := hd
  cases he.symm.trans hf
  cases hc.unique hd
  rfl

theorem IsObject.wellFormed (h : m.IsObject t) : m.WellFormed t :=
  (wellFormed_declared h.1).mpr ⟨.object, h.1, h.2.2⟩

theorem IsObject.no_leads (h : m.IsObject t) {s : T} : ¬ m.Leads t s := by
  obtain ⟨k, ha, -⟩ := h
  intro hs
  cases hs with
  | inside hs =>
    rw [inside_declared k, ha] at hs
    cases hs
  | bound k' =>
    rw [k] at k'
    cases k'

theorem Leaf.wellFormed {a : TypeName} (h : m.Leaf m.HasName t a) : m.WellFormed t := by
  cases h with
  | primitive k => exact wellFormed_primitive k
  | void k => exact wellFormed_void k
  | null k => exact wellFormed_null k
  | named k he hc => exact (wellFormed_declared k).mpr ⟨_, k, _, he, hc⟩

theorem Leaf.no_inside {a : TypeName} (h : m.Leaf m.HasName t a) {s : T} : ¬ m.Inside s t := by
  cases h with
  | primitive k | void k | null k => exact not_inside (by simp [k]) (by simp [k]) (by simp [k])
  | named k he hc ha =>
    rw [inside_declared k, ha]
    exact List.not_mem_nil

theorem Fault.not_wellFormed {err : ConversionError} (h : m.Fault m.HasName t err) :
    ¬ m.WellFormed t := by
  intro hw
  cases h with
  | unsupported k => exact not_wellFormed_of_unsupported k hw
  | noComponent k hc =>
    rw [wellFormed_array k, hc] at hw
    cases hw
  | noElement k he =>
    obtain ⟨c, -, e, he', -⟩ := (wellFormed_declared k).mp hw
    rw [he] at he'
    cases he'
  | className k he hc =>
    obtain ⟨c, -, e, he', hc'⟩ := (wellFormed_declared k).mp hw
    cases he.symm.trans he'
    cases hc.unique hc'
  | noVariable k he =>
    rw [wellFormed_typeVariable k, he] at hw
    cases hw.1

theorem UnnamedBound.not_wellFormed {err : ConversionError}
    (h : m.UnnamedBound m.HasName t err) : ¬ m.WellFormed t := by
  obtain ⟨k, -, e, he, hc⟩ := h
  exact Fault.not_wellFormed (.className k he hc)

theorem PlainBound.not_isObject (h : m.PlainBound m.HasName t) : ¬ m.IsObject t := by
  rintro ⟨k, ha, e, he, ho⟩
  obtain ⟨c, hc, hne⟩ := h.2 k ha e he
  cases hc.unique ho
  exact hne rfl

theorem PlainBound.not_unnamed {err : ConversionError} (h : m.PlainBound m.HasName t) :
    ¬ m.UnnamedBound m.HasName t err := by
  rintro ⟨k, ha, e, he, hu⟩
  obtain ⟨c, hc, -⟩ := h.2 k ha e he
  cases hc.unique hu

end JavaTypes.TypeModel
