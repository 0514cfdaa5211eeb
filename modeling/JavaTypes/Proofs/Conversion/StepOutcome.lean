import JavaTypes.Proofs.Conversion.PartOutcome

namespace JavaTypes.TypeModel

open Conversion

variable {T E : Type} (m : TypeModel T E) (inner : T → Conversion E TypeName)
  (convention : Convention) (n : Nat) [DecidableEq E]

theorem yields_typeVariable {t : T} {v : TypeVariable} {p q : Progress E} :
    (m.typeVariable convention n inner t).Yields p v q ↔ ∃ e, m.element? t = some e ∧
      ((p.memo.get? e = some v ∧ q = p.emit (.reused v.name)) ∨
        (p.memo.get? e = none ∧ ∃ as r, v = ⟨m.elementName e, as⟩ ∧ q = r.remember e v ∧
          m.BoundsStep (fun s => (inner s).Yields) (m.NameAt n) convention t
            (p.remember e (.unbounded (m.elementName e))) as r)) := by
  unfold typeVariable
  cases he : m.element? t with
  | none => simp
  | some e =>
    simp only [yields_bind, yields_known?, Option.some.injEq, exists_eq_left']
    constructor
    · rintro ⟨o, _, ⟨ho, rfl⟩, h⟩
      split at h
      next v' =>
        simp only [yields_bind, yields_emit, yields_pure] at h
        obtain ⟨_, _, rfl, rfl, rfl⟩ := h
        exact .inl ⟨ho.symm, rfl⟩
      next =>
        simp only [yields_bind, yields_remember, yields_forgetting, yields_bounds,
          yields_pure] at h
        obtain ⟨_, _, rfl, as, r, hs, _, _, rfl, rfl, rfl⟩ := h
        exact .inr ⟨ho.symm, as, r, rfl, rfl, hs⟩
    · rintro (⟨hv, rfl⟩ | ⟨hv, as, r, rfl, rfl, hs⟩)
      · refine ⟨some v, p, ⟨hv.symm, rfl⟩, ?_⟩
        simp only [yields_bind, yields_emit, yields_pure]
        exact ⟨(), _, rfl, trivial, rfl⟩
      · refine ⟨none, p, ⟨hv.symm, rfl⟩, ?_⟩
        simp only [yields_bind, yields_remember, yields_forgetting, yields_bounds, yields_pure]
        exact ⟨(), _, rfl, as, r, hs, (), _, rfl, ⟨rfl, rfl⟩⟩

theorem fails_typeVariable {t : T} {err : ConversionError} {p q : Progress E} :
    (m.typeVariable convention n inner t).Fails p err q ↔
      (m.element? t = none ∧ err = .invalidInput .variableWithoutElement ∧ q = p) ∨
      ∃ e, m.element? t = some e ∧ p.memo.get? e = none ∧ ∃ r, q = r.forget e ∧
        m.BoundsFailure (fun s => (inner s).Yields) (fun s => (inner s).Fails) (m.NameAt n)
          (m.elementName e) t (p.remember e (.unbounded (m.elementName e))) err r := by
  unfold typeVariable
  cases he : m.element? t with
  | none => simp
  | some e =>
    simp only [fails_bind, yields_known?, fails_known?, false_or, reduceCtorEq, false_and,
      Option.some.injEq, exists_eq_left']
    constructor
    · rintro ⟨o, _, ⟨ho, rfl⟩, h⟩
      split at h
      next v' =>
        simp only [fails_bind, fails_emit, fails_pure, and_false, exists_false, or_false] at h
      next =>
        simp only [fails_bind, yields_remember, fails_remember, fails_forgetting, fails_bounds,
          fails_pure, and_false, exists_false, or_false, false_or] at h
        obtain ⟨_, _, rfl, r, hs, rfl⟩ := h
        exact ⟨ho.symm, r, rfl, hs⟩
    · rintro ⟨hv, r, rfl, hs⟩
      refine ⟨none, p, ⟨hv.symm, rfl⟩, ?_⟩
      simp only [fails_bind, yields_remember, fails_forgetting, fails_bounds]
      exact .inr ⟨(), _, rfl, .inl ⟨r, hs, rfl⟩⟩

theorem yields_convertStep {t : T} {a : TypeName} {p q : Progress E} :
    (m.convertStep convention n inner t).Yields p a q ↔
      m.Step (fun s => (inner s).Yields) (m.NameAt n) convention t p a q := by
  unfold convertStep
  simp only [yields_bind, yields_emit]
  constructor
  · rintro ⟨_, _, rfl, h⟩
    split at h
    case h_1 k => obtain ⟨rfl, rfl⟩ := yields_pure.mp h; exact .leaf (.primitive k)
    case h_2 k => obtain ⟨rfl, rfl⟩ := yields_pure.mp h; exact .leaf (.void k)
    case h_3 k => obtain ⟨rfl, rfl⟩ := yields_pure.mp h; exact .leaf (.null k)
    case h_4 k =>
      split at h
      next => exact absurd h yields_invalid
      next s hc =>
        simp only [yields_bind, yields_pure] at h
        obtain ⟨a, _, hs, rfl, rfl⟩ := h
        exact .array k hc hs
    case h_5 k =>
      obtain ⟨hl, rfl⟩ | ⟨e, c, as, he, hc, ha, rfl, hs⟩ := (m.yields_declared inner k).mp h
      · exact .leaf hl
      · exact .applied k he hc ha hs
    case h_6 k =>
      simp only [yields_bind, yields_typeVariable, yields_pure] at h
      obtain ⟨v, _, ⟨e, he, ⟨hv, rfl⟩ | ⟨hv, as, r, rfl, rfl, hs⟩⟩, rfl, rfl⟩ := h
      · exact .known k he hv
      · exact .fresh k he hv hs
    case h_7 k =>
      simp only [yields_bind, yields_intersectionParts, yields_pure] at h
      obtain ⟨as, _, hs, rfl, rfl⟩ := h
      exact .parts k hs
    case h_8 => exact absurd h yields_throw
  · intro h
    refine ⟨(), p.met (m.kind t), rfl, ?_⟩
    cases h with
    | leaf hl =>
      cases hl with
      | named k he hc ha =>
        rw [k]
        exact (m.yields_declared inner k).mpr (.inl ⟨.named k he hc ha, rfl⟩)
      | _ k => rw [k]; exact yields_pure.mpr ⟨rfl, rfl⟩
    | array k hc hs =>
      rw [k] at hs ⊢
      simp only [hc, yields_bind, yields_pure]
      exact ⟨_, _, hs, rfl, rfl⟩
    | applied k he hc ha hs =>
      rw [k] at hs ⊢
      exact (m.yields_declared inner k).mpr (.inr ⟨_, _, _, he, hc, ha, rfl, hs⟩)
    | parts k hs =>
      rw [k] at hs ⊢
      simp only [yields_bind, yields_intersectionParts, yields_pure]
      exact ⟨_, _, hs, rfl, rfl⟩
    | known k he hv =>
      rw [k]
      simp only [yields_bind, yields_typeVariable, yields_pure]
      exact ⟨_, _, ⟨_, he, .inl ⟨hv, rfl⟩⟩, rfl, rfl⟩
    | fresh k he hv hs =>
      rw [k] at hs ⊢
      simp only [yields_bind, yields_typeVariable, yields_pure]
      exact ⟨_, _, ⟨_, he, .inr ⟨hv, _, _, rfl, rfl, hs⟩⟩, rfl, rfl⟩

theorem fails_convertStep {t : T} {err : ConversionError} {p q : Progress E} :
    (m.convertStep convention n inner t).Fails p err q ↔
      m.Failure (fun s => (inner s).Yields) (fun s => (inner s).Fails) (m.NameAt n)
        t p err q := by
  unfold convertStep
  simp only [fails_bind, yields_emit, fails_emit, false_or]
  constructor
  · rintro ⟨_, _, rfl, h⟩
    split at h
    case h_4 k =>
      split at h
      next hc =>
        obtain ⟨rfl, rfl⟩ := fails_invalid.mp h
        exact .fault (.noComponent k hc)
      next s hc =>
        simp only [fails_bind, fails_pure, and_false, exists_false, or_false] at h
        exact .array k hc h
    case h_5 k =>
      obtain ⟨hf, rfl⟩ | ⟨e, c, he, hc, ha, hs⟩ := (m.fails_declared inner k).mp h
      · exact .fault hf
      · exact .applied k he hc ha hs
    case h_6 k =>
      simp only [fails_bind, fails_typeVariable, fails_pure, and_false, exists_false,
        or_false] at h
      obtain ⟨he, rfl, rfl⟩ | ⟨e, he, hv, r, rfl, hs⟩ := h
      · exact .fault (.noVariable k he)
      · exact .fresh k he hv hs
    case h_7 k =>
      simp only [fails_bind, fails_intersectionParts, fails_pure, and_false, exists_false,
        or_false] at h
      exact .parts k h
    case h_8 hu =>
      obtain ⟨hk, rfl⟩ := fails_throw.mp h
      cases hk
      refine .fault (.unsupported ?_)
      cases k : m.kind t <;> simp_all [TypeKind.isSupported]
    all_goals exact absurd h fails_pure
  · intro h
    refine ⟨(), p.met (m.kind t), rfl, ?_⟩
    cases h with
    | fault hf =>
      cases hf with
      | unsupported hu =>
        cases k : m.kind t <;> simp_all [TypeKind.isSupported, Progress.met]
      | noComponent k hc =>
        rw [k]
        simp only [hc]
        exact fails_invalid.mpr ⟨rfl, rfl⟩
      | noElement k he =>
        rw [k]
        exact (m.fails_declared inner k).mpr (.inl ⟨.noElement k he, rfl⟩)
      | className k he hc =>
        rw [k]
        exact (m.fails_declared inner k).mpr (.inl ⟨.className k he hc, rfl⟩)
      | noVariable k he =>
        rw [k]
        simp only [fails_bind, fails_typeVariable]
        exact .inl (.inl ⟨he, trivial, trivial⟩)
    | array k hc hs =>
      rw [k] at hs ⊢
      simp only [hc, fails_bind]
      exact .inl hs
    | applied k he hc ha hs =>
      rw [k] at hs ⊢
      exact (m.fails_declared inner k).mpr (.inr ⟨_, _, he, hc, ha, hs⟩)
    | parts k hs =>
      rw [k] at hs ⊢
      simp only [fails_bind, fails_intersectionParts]
      exact .inl hs
    | fresh k he hv hs =>
      rw [k] at hs ⊢
      simp only [fails_bind, fails_typeVariable]
      exact .inl (.inr ⟨_, he, hv, _, rfl, hs⟩)

end JavaTypes.TypeModel
