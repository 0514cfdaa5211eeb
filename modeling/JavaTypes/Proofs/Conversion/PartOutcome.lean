import JavaTypes.Proofs.Conversion.Step

namespace JavaTypes.TypeModel

open Conversion

variable {T E : Type} (m : TypeModel T E)

theorem isObject_eq_true (n : Nat) (b : T) (k : m.kind b = .declared) :
    m.isObject n b = .ok true ↔ m.ObjectBound (m.NameAt n) b := by
  unfold isObject ObjectBound
  by_cases ha : m.arguments b = []
  · cases he : m.element? b with
    | none => simp [ha]
    | some e => cases hc : m.className n e <;> simp [ha, k, Except.map, nameAt_ok, hc]
  · simp [ha]

theorem isObject_eq_false (n : Nat) (b : T) (k : m.kind b = .declared) :
    m.isObject n b = .ok false ↔ m.PlainBound (m.NameAt n) b := by
  unfold isObject PlainBound
  by_cases ha : m.arguments b = []
  · cases he : m.element? b with
    | none => simp [ha, k]
    | some e => cases hc : m.className n e <;> simp [ha, k, Except.map, nameAt_ok, hc]
  · simp [ha, k]

theorem isObject_eq_error (n : Nat) (b : T) (err : ConversionError) (k : m.kind b = .declared) :
    m.isObject n b = .error (.failed err) ↔ m.UnnamedBound (m.NameAt n) b err := by
  unfold isObject UnnamedBound
  by_cases ha : m.arguments b = []
  · cases he : m.element? b with
    | none => simp [ha]
    | some e => cases hc : m.className n e <;> simp [ha, k, Except.map, nameAt_error, hc]
  · simp [ha]

section

variable (inner : T → Conversion E TypeName)

theorem yields_intersectionParts {t : T} {as : List TypeName} {p q : Progress E} :
    (m.intersectionParts inner t).Yields p as q ↔
      m.PartsStep (fun s => (inner s).Yields) t p as q := by
  unfold intersectionParts PartsStep
  simp only [yields_bind, yields_mapM]
  constructor
  · rintro ⟨bs, q', h, hb⟩
    split at hb
    · exact absurd hb yields_invalid
    · obtain ⟨rfl, rfl⟩ := yields_pure.mp hb
      exact ⟨h, by omega⟩
  · rintro ⟨h, ha⟩
    refine ⟨as, q, h, ?_⟩
    rw [if_neg (by omega)]
    exact yields_pure.mpr ⟨rfl, rfl⟩

theorem fails_intersectionParts {t : T} {err : ConversionError} {p q : Progress E} :
    (m.intersectionParts inner t).Fails p err q ↔
      m.PartsFailure (fun s => (inner s).Yields) (fun s => (inner s).Fails) t p err q := by
  unfold intersectionParts
  simp only [fails_bind, yields_mapM, fails_mapM]
  constructor
  · rintro (h | ⟨as, q', h, hf⟩)
    · exact .part h
    · split at hf
      next ha =>
        obtain ⟨rfl, rfl⟩ := fails_invalid.mp hf
        exact .tooFew h ha
      next => exact absurd hf fails_pure
  · intro h
    cases h with
    | part h => exact .inl h
    | tooFew h ha =>
      refine .inr ⟨_, _, h, ?_⟩
      rw [if_pos ha]
      exact fails_invalid.mpr ⟨rfl, rfl⟩

theorem yields_declared {n : Nat} {t : T} {a : TypeName} {p q : Progress E}
    (k : m.kind t = .declared) :
    (m.declared n inner t).Yields p a q ↔
      (m.Leaf (m.NameAt n) t a ∧ q = p) ∨ ∃ e c as, m.element? t = some e ∧
        m.NameAt n e (.ok c) ∧ m.arguments t ≠ [] ∧ a = .parameterized c as ∧
        Each (fun s => (inner s).Yields) (m.arguments t) p as q := by
  unfold declared
  constructor
  · intro h
    cases he : m.element? t with
    | none => simp [he] at h
    | some e =>
      simp only [he, yields_bind, yields_ofExcept] at h
      obtain ⟨c, _, ⟨hc, rfl⟩, h⟩ := h
      split at h
      next ha =>
        obtain ⟨rfl, rfl⟩ := yields_pure.mp h
        exact .inl ⟨.named k he hc ha, rfl⟩
      next ha =>
        simp only [yields_bind, yields_mapM, yields_pure] at h
        obtain ⟨as, _, hs, rfl, rfl⟩ := h
        exact .inr ⟨e, c, as, rfl, hc, ha, rfl, hs⟩
  · rintro (⟨h, rfl⟩ | ⟨e, c, as, he, hc, ha, rfl, hs⟩)
    · cases h with
      | named _ he hc ha =>
        simp only [he, yields_bind, yields_ofExcept]
        refine ⟨_, _, ⟨hc, rfl⟩, ?_⟩
        simp [ha]
      | _ => simp_all
    · simp only [he, yields_bind, yields_ofExcept]
      refine ⟨_, _, ⟨hc, rfl⟩, ?_⟩
      simp only [yields_mapM, yields_pure]
      exact ⟨as, q, hs, rfl, rfl⟩

theorem fails_declared {n : Nat} {t : T} {err : ConversionError} {p q : Progress E}
    (k : m.kind t = .declared) :
    (m.declared n inner t).Fails p err q ↔
      (m.Fault (m.NameAt n) t err ∧ q = p) ∨ ∃ e c, m.element? t = some e ∧
        m.NameAt n e (.ok c) ∧ m.arguments t ≠ [] ∧
        Halts (fun s => (inner s).Yields) (fun s => (inner s).Fails) (m.arguments t) p err q := by
  unfold declared
  constructor
  · intro h
    cases he : m.element? t with
    | none =>
      simp only [he, fails_invalid] at h
      obtain ⟨rfl, rfl⟩ := h
      exact .inl ⟨.noElement k he, rfl⟩
    | some e =>
      simp only [he, fails_bind, yields_ofExcept, fails_ofExcept] at h
      obtain ⟨hc, rfl⟩ | ⟨c, _, ⟨hc, rfl⟩, h⟩ := h
      · exact .inl ⟨.className k he hc, rfl⟩
      · split at h
        next => exact absurd h fails_pure
        next ha =>
          simp only [fails_bind, fails_mapM, fails_pure, and_false, exists_false, or_false] at h
          exact .inr ⟨e, c, rfl, hc, ha, h⟩
  · rintro (⟨h, rfl⟩ | ⟨e, c, he, hc, ha, hs⟩)
    · cases h with
      | noElement _ he => simp [he]
      | className _ he hc =>
        simp only [he, fails_bind, fails_ofExcept]
        exact .inl ⟨hc, trivial⟩
      | unsupported hk => simp [k, TypeKind.isSupported] at hk
      | _ => simp_all
    · simp only [he, fails_bind, yields_ofExcept]
      refine .inr ⟨_, _, ⟨hc, rfl⟩, ?_⟩
      simp only [fails_mapM]
      exact .inl hs

variable (convention : Convention) (n : Nat)

theorem yields_bounds {name : String} {t : T} {as : List TypeName} {p q : Progress E} :
    (m.bounds convention n inner name t).Yields p as q ↔
      m.BoundsStep (fun s => (inner s).Yields) (m.NameAt n) convention t p as q := by
  unfold bounds
  constructor
  · intro h
    cases hb : m.upperBound? t with
    | none => simp [hb] at h
    | some b =>
      simp only [hb] at h
      split at h
      next k =>
        simp only [yields_bind, yields_intersectionParts] at h
        obtain ⟨parts, _, hs, h⟩ := h
        split at h
        all_goals
          obtain ⟨rfl, rfl⟩ := yields_pure.mp h
          exact .parts hb k hs
      next k =>
        simp only [yields_bind, yields_ofExcept] at h
        obtain ⟨o, _, ⟨ho, rfl⟩, h⟩ := h
        split at h
        next ht =>
          obtain ⟨rfl, rfl⟩ := yields_pure.mp h
          exact .object hb ((m.isObject_eq_true n b k).mp (by rw [ho, ht]))
        next hf =>
          simp only [yields_bind, yields_pure] at h
          obtain ⟨a, _, hs, rfl, rfl⟩ := h
          exact .plain hb ((m.isObject_eq_false n b k).mp (by rw [ho]; simpa using hf)) hs
      next hi hd =>
        simp only [yields_bind, yields_pure] at h
        obtain ⟨a, _, hs, rfl, rfl⟩ := h
        exact .plain hb ⟨hi, fun k => absurd k hd⟩ hs
  · intro h
    cases h with
    | object hb ho =>
      have hi := (m.isObject_eq_true n _ ho.1).mpr ho
      simp only [hb, ho.1, hi, yields_bind, yields_ofExcept]
      exact ⟨true, p, ⟨rfl, rfl⟩, yields_pure.mpr ⟨rfl, rfl⟩⟩
    | parts hb k hs =>
      simp only [hb, k, yields_bind, yields_intersectionParts]
      refine ⟨_, _, hs, ?_⟩
      cases convention <;> exact yields_pure.mpr ⟨rfl, rfl⟩
    | plain hb ho hs =>
      simp only [hb]
      split
      next k => exact absurd k ho.1
      next k =>
        have hi := (m.isObject_eq_false n _ k).mpr ho
        simp only [hi, yields_bind, yields_ofExcept]
        refine ⟨false, p, ⟨rfl, rfl⟩, ?_⟩
        simp only [Bool.false_eq_true, ↓reduceIte, yields_bind, yields_pure]
        exact ⟨_, q, hs, rfl, rfl⟩
      next =>
        simp only [yields_bind, yields_pure]
        exact ⟨_, q, hs, rfl, rfl⟩

theorem fails_bounds {name : String} {t : T} {err : ConversionError} {p q : Progress E} :
    (m.bounds convention n inner name t).Fails p err q ↔
      m.BoundsFailure (fun s => (inner s).Yields) (fun s => (inner s).Fails) (m.NameAt n) name
        t p err q := by
  unfold bounds
  constructor
  · intro h
    cases hb : m.upperBound? t with
    | none =>
      simp only [hb, fails_invalid] at h
      obtain ⟨rfl, rfl⟩ := h
      exact .noBound hb
    | some b =>
      simp only [hb] at h
      split at h
      next k =>
        simp only [fails_bind, yields_intersectionParts, fails_intersectionParts] at h
        obtain hs | ⟨parts, _, _, h⟩ := h
        · exact .parts hb k hs
        · split at h
          all_goals exact absurd h fails_pure
      next k =>
        simp only [fails_bind, yields_ofExcept, fails_ofExcept] at h
        obtain ⟨ho, rfl⟩ | ⟨o, _, ⟨ho, rfl⟩, h⟩ := h
        · exact .unnamed hb ((m.isObject_eq_error n b err k).mp ho)
        · split at h
          next => exact absurd h fails_pure
          next hf =>
            simp only [fails_bind, fails_pure, and_false, exists_false, or_false] at h
            exact .plain hb ((m.isObject_eq_false n b k).mp (by rw [ho]; simpa using hf)) h
      next hi hd =>
        simp only [fails_bind, fails_pure, and_false, exists_false, or_false] at h
        exact .plain hb ⟨hi, fun k => absurd k hd⟩ h
  · intro h
    cases h with
    | noBound hb => simp [hb]
    | unnamed hb ho =>
      have hi := (m.isObject_eq_error n _ _ ho.1).mpr ho
      simp [hb, ho.1, hi]
    | parts hb k hs =>
      simp only [hb, k, fails_bind, fails_intersectionParts]
      exact .inl hs
    | plain hb ho hs =>
      simp only [hb]
      split
      next k => exact absurd k ho.1
      next k =>
        have hi := (m.isObject_eq_false n _ k).mpr ho
        simp only [hi, fails_bind, yields_ofExcept]
        refine .inr ⟨false, p, ⟨rfl, rfl⟩, ?_⟩
        simp only [Bool.false_eq_true, ↓reduceIte, fails_bind]
        exact .inl hs
      next =>
        simp only [fails_bind]
        exact .inl hs

end

end JavaTypes.TypeModel
