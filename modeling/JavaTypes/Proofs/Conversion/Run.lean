import JavaTypes.Model.Report
import JavaTypes.Proofs.Conversion.Monotone

namespace JavaTypes.TypeModel

open Conversion

variable {T E : Type} [DecidableEq E] (m : TypeModel T E) (convention : Convention)

def Succeeds (t : T) (p : Progress E) (a : TypeName) (q : Progress E) : Prop :=
  ∃ n, (m.convert convention n t).Yields p a q

def Fails (t : T) (p : Progress E) (err : ConversionError) (q : Progress E) : Prop :=
  ∃ n, (m.convert convention n t).Fails p err q

variable {m convention}

section Induction

variable {t : T} {p q : Progress E}

theorem Succeeds.induct {P : T → Progress E → TypeName → Progress E → Prop}
    (step : ∀ {t p a q}, m.Step P m.HasName convention t p a q → P t p a q) {a : TypeName}
    (h : m.Succeeds convention t p a q) : P t p a q := by
  obtain ⟨n, h⟩ := h
  induction n generalizing t p a q with
  | zero => exact absurd h yields_throw
  | succ n ih => exact step (((m.yields_convertStep _ _ _).mp h).mono ih fun hN => ⟨n, hN⟩)

theorem Succeeds.step {a : TypeName} (h : m.Succeeds convention t p a q) :
    m.Step (m.Succeeds convention) m.HasName convention t p a q := by
  obtain ⟨n, h⟩ := h
  cases n with
  | zero => exact absurd h yields_throw
  | succ n =>
    exact ((m.yields_convertStep _ _ _).mp h).mono (fun hR => ⟨n, hR⟩) fun hN => ⟨n, hN⟩

theorem Fails.step {err : ConversionError} (h : m.Fails convention t p err q) :
    m.Failure (m.Succeeds convention) (m.Fails convention) m.HasName t p err q := by
  obtain ⟨n, h⟩ := h
  cases n with
  | zero => cases (fails_throw.mp h).1
  | succ n =>
    exact ((m.fails_convertStep _ _ _).mp h).mono (fun hR => ⟨n, hR⟩) (fun hF => ⟨n, hF⟩)
      fun hN => ⟨n, hN⟩

theorem Fails.induct {Q : T → Progress E → ConversionError → Progress E → Prop}
    (step : ∀ {t p err q}, m.Failure (m.Succeeds convention) Q m.HasName t p err q →
      Q t p err q) {err : ConversionError} (h : m.Fails convention t p err q) : Q t p err q := by
  obtain ⟨n, h⟩ := h
  induction n generalizing t p err q with
  | zero => cases (fails_throw.mp h).1
  | succ n ih =>
    exact step (((m.fails_convertStep _ _ _).mp h).mono (fun hR => ⟨n, hR⟩) ih fun hN => ⟨n, hN⟩)

end Induction

section Family

variable {Y : Nat → T → Progress E → TypeName → Progress E → Prop}
  {F : Nat → T → Progress E → ConversionError → Progress E → Prop} {t : T} {p q : Progress E}

def Rising {α β σ : Type} (Y : Nat → α → σ → β → σ → Prop) : Prop :=
  ∀ ⦃i j⦄, i ≤ j → ∀ {t p a q}, Y i t p a q → Y j t p a q

omit [DecidableEq E] in
theorem exists_each (hY : Rising Y) {ts : List T} {as : List TypeName}
    (h : Each (fun t p a q => ∃ n, Y n t p a q) ts p as q) : ∃ n, Each (Y n) ts p as q := by
  induction h with
  | nil p => exact ⟨0, .nil p⟩
  | cons h _ ih =>
    obtain ⟨i, hi⟩ := h
    obtain ⟨j, hj⟩ := ih
    exact ⟨max i j, .cons (hY (Nat.le_max_left i j) hi) (hj.mono (hY (Nat.le_max_right i j)))⟩

omit [DecidableEq E] in
theorem exists_halts (hY : Rising Y) (hF : Rising F) {ts : List T} {err : ConversionError}
    (h : Halts (fun t p a q => ∃ n, Y n t p a q) (fun t p e q => ∃ n, F n t p e q) ts p err q) :
    ∃ n, Halts (Y n) (F n) ts p err q := by
  induction h with
  | here h =>
    obtain ⟨n, h⟩ := h
    exact ⟨n, .here h⟩
  | later h _ ih =>
    obtain ⟨i, hi⟩ := h
    obtain ⟨j, hj⟩ := ih
    exact ⟨max i j, .later (hY (Nat.le_max_left i j) hi)
      (hj.mono (hY (Nat.le_max_right i j)) (hF (Nat.le_max_right i j)))⟩

omit [DecidableEq E] in
theorem exists_plainBound {b : T} (h : m.PlainBound m.HasName b) :
    ∃ n, m.PlainBound (m.NameAt n) b := by
  by_cases hb : m.kind b = .declared ∧ m.arguments b = [] ∧ (m.element? b).isSome
  · obtain ⟨k, ha, he⟩ := hb
    obtain ⟨e, he⟩ := Option.isSome_iff_exists.mp he
    obtain ⟨c, ⟨n, hc⟩, hne⟩ := h.2 k ha e he
    refine ⟨n, h.1, fun _ _ e' he' => ?_⟩
    cases he.symm.trans he'
    exact ⟨c, hc, hne⟩
  · refine ⟨0, h.1, fun k ha e he => ?_⟩
    exact absurd ⟨k, ha, by simp [he]⟩ hb

omit [DecidableEq E] in
theorem exists_partsFailure (hY : Rising Y) (hF : Rising F) {err : ConversionError}
    (h : m.PartsFailure (fun t p a q => ∃ n, Y n t p a q) (fun t p e q => ∃ n, F n t p e q)
      t p err q) : ∃ n, m.PartsFailure (Y n) (F n) t p err q := by
  cases h with
  | part h =>
    obtain ⟨n, hn⟩ := exists_halts hY hF h
    exact ⟨n, .part hn⟩
  | tooFew h ha =>
    obtain ⟨n, hn⟩ := exists_each hY h
    exact ⟨n, .tooFew hn ha⟩

omit [DecidableEq E] in
theorem exists_boundsStep (hY : Rising Y) {as : List TypeName}
    (h : m.BoundsStep (fun t p a q => ∃ n, Y n t p a q) m.HasName convention t p as q) :
    ∃ n, m.BoundsStep (Y n) (m.NameAt n) convention t p as q := by
  cases h with
  | object h hb =>
    obtain ⟨k, ha, e, he, n, hc⟩ := hb
    exact ⟨n, .object h ⟨k, ha, e, he, hc⟩⟩
  | parts h k hs =>
    obtain ⟨n, hn⟩ := exists_each hY hs.1
    exact ⟨n, .parts h k ⟨hn, hs.2⟩⟩
  | plain h hb hs =>
    obtain ⟨i, hi⟩ := exists_plainBound hb
    obtain ⟨j, hj⟩ := hs
    exact ⟨max i j, .plain h (hi.mono fun hc => hc.mono (Nat.le_max_left i j))
      (hY (Nat.le_max_right i j) hj)⟩

omit [DecidableEq E] in
theorem exists_boundsFailure (hY : Rising Y) (hF : Rising F) {name : String}
    {err : ConversionError} (h : m.BoundsFailure (fun t p a q => ∃ n, Y n t p a q)
      (fun t p e q => ∃ n, F n t p e q) m.HasName name t p err q) :
    ∃ n, m.BoundsFailure (Y n) (F n) (m.NameAt n) name t p err q := by
  cases h with
  | noBound h => exact ⟨0, .noBound h⟩
  | unnamed h hb =>
    obtain ⟨k, ha, e, he, n, hc⟩ := hb
    exact ⟨n, .unnamed h ⟨k, ha, e, he, hc⟩⟩
  | parts h k hs =>
    obtain ⟨n, hn⟩ := exists_partsFailure hY hF hs
    exact ⟨n, .parts h k hn⟩
  | plain h hb hs =>
    obtain ⟨i, hi⟩ := exists_plainBound hb
    obtain ⟨j, hj⟩ := hs
    exact ⟨max i j, .plain h (hi.mono fun hc => hc.mono (Nat.le_max_left i j))
      (hF (Nat.le_max_right i j) hj)⟩

theorem exists_step (hY : Rising Y) {a : TypeName}
    (h : m.Step (fun t p a q => ∃ n, Y n t p a q) m.HasName convention t p a q) :
    ∃ n, m.Step (Y n) (m.NameAt n) convention t p a q := by
  cases h with
  | leaf h =>
    cases h with
    | primitive k => exact ⟨0, .leaf (.primitive k)⟩
    | void k => exact ⟨0, .leaf (.void k)⟩
    | null k => exact ⟨0, .leaf (.null k)⟩
    | named k h hc ha =>
      obtain ⟨n, hc⟩ := hc
      exact ⟨n, .leaf (.named k h hc ha)⟩
  | array k h hs =>
    obtain ⟨n, hs⟩ := hs
    exact ⟨n, .array k h hs⟩
  | applied k h hc ha hs =>
    obtain ⟨i, hi⟩ := hc
    obtain ⟨j, hj⟩ := exists_each hY hs
    exact ⟨max i j, .applied k h (NameAt.mono hi (Nat.le_max_left i j)) ha
      (hj.mono (hY (Nat.le_max_right i j)))⟩
  | parts k hs =>
    obtain ⟨n, hn⟩ := exists_each hY hs.1
    exact ⟨n, .parts k ⟨hn, hs.2⟩⟩
  | known k h hv => exact ⟨0, .known k h hv⟩
  | fresh k h hv hs =>
    obtain ⟨n, hn⟩ := exists_boundsStep hY hs
    exact ⟨n, .fresh k h hv hn⟩

theorem exists_failure (hY : Rising Y) (hF : Rising F) {err : ConversionError}
    (h : m.Failure (fun t p a q => ∃ n, Y n t p a q) (fun t p e q => ∃ n, F n t p e q) m.HasName
      t p err q) : ∃ n, m.Failure (Y n) (F n) (m.NameAt n) t p err q := by
  cases h with
  | fault h =>
    cases h with
    | unsupported k => exact ⟨0, .fault (.unsupported k)⟩
    | noComponent k h => exact ⟨0, .fault (.noComponent k h)⟩
    | noElement k h => exact ⟨0, .fault (.noElement k h)⟩
    | className k h hc =>
      obtain ⟨n, hc⟩ := hc
      exact ⟨n, .fault (.className k h hc)⟩
    | noVariable k h => exact ⟨0, .fault (.noVariable k h)⟩
  | array k h hs =>
    obtain ⟨n, hs⟩ := hs
    exact ⟨n, .array k h hs⟩
  | applied k h hc ha hs =>
    obtain ⟨i, hi⟩ := hc
    obtain ⟨j, hj⟩ := exists_halts hY hF hs
    exact ⟨max i j, .applied k h (NameAt.mono hi (Nat.le_max_left i j)) ha
      (hj.mono (hY (Nat.le_max_right i j)) (hF (Nat.le_max_right i j)))⟩
  | parts k hs =>
    obtain ⟨n, hn⟩ := exists_partsFailure hY hF hs
    exact ⟨n, .parts k hn⟩
  | fresh k h hv hs =>
    obtain ⟨n, hn⟩ := exists_boundsFailure hY hF hs
    exact ⟨n, .fresh k h hv hn⟩

end Family

theorem yields_rising : Rising fun n t => (m.convert convention n t).Yields :=
  fun _ _ hij _ _ _ _ h => convert_yields_mono h hij

theorem Succeeds.unique {t : T} {p q r : Progress E} {a b : TypeName}
    (h : m.Succeeds convention t p a q) (h' : m.Succeeds convention t p b r) : a = b ∧ q = r := by
  obtain ⟨i, hi⟩ := h
  obtain ⟨j, hj⟩ := h'
  have hi := (yields_rising (Nat.le_max_left i j) hi).outcome_eq
  cases hi.symm.trans (yields_rising (Nat.le_max_right i j) hj).outcome_eq
  exact ⟨rfl, rfl⟩

theorem fails_rising : Rising fun n t => (m.convert convention n t).Fails :=
  fun _ _ hij _ _ _ _ h => convert_fails_mono h hij

theorem Succeeds.not_fails {t : T} {p q r : Progress E} {a : TypeName} {err : ConversionError}
    (h : m.Succeeds convention t p a q) : ¬ m.Fails convention t p err r := by
  obtain ⟨i, hi⟩ := h
  rintro ⟨j, hj⟩
  have hi := (yields_rising (Nat.le_max_left i j) hi).outcome_eq
  cases hi.symm.trans (fails_rising (Nat.le_max_right i j) hj).outcome_eq

theorem Succeeds.of_step {t : T} {p q : Progress E} {a : TypeName}
    (h : m.Step (m.Succeeds convention) m.HasName convention t p a q) :
    m.Succeeds convention t p a q := by
  obtain ⟨n, hn⟩ := exists_step yields_rising h
  exact ⟨n + 1, (m.yields_convertStep _ _ _).mpr hn⟩

theorem Fails.of_step {t : T} {p q : Progress E} {err : ConversionError}
    (h : m.Failure (m.Succeeds convention) (m.Fails convention) m.HasName t p err q) :
    m.Fails convention t p err q := by
  obtain ⟨n, hn⟩ := exists_failure yields_rising fails_rising h
  exact ⟨n + 1, (m.fails_convertStep _ _ _).mpr hn⟩

section Bounds

variable {name : String} {t : T} {p q : Progress E}

theorem exists_yields_bounds_iff {as : List TypeName} :
    (∃ n, (m.bounds convention n (m.convert convention n) name t).Yields p as q) ↔
      m.BoundsStep (m.Succeeds convention) m.HasName convention t p as q := by
  constructor
  · rintro ⟨n, h⟩
    exact ((m.yields_bounds _ _ _).mp h).mono (fun hR => ⟨n, hR⟩) fun hN => ⟨n, hN⟩
  · intro h
    obtain ⟨n, hn⟩ := exists_boundsStep yields_rising h
    exact ⟨n, (m.yields_bounds _ _ _).mpr hn⟩

theorem exists_fails_bounds_iff {err : ConversionError} :
    (∃ n, (m.bounds convention n (m.convert convention n) name t).Fails p err q) ↔
      m.BoundsFailure (m.Succeeds convention) (m.Fails convention) m.HasName name t p err q := by
  constructor
  · rintro ⟨n, h⟩
    exact ((m.fails_bounds _ _ _).mp h).mono (fun hR => ⟨n, hR⟩) (fun hF => ⟨n, hF⟩)
      fun hN => ⟨n, hN⟩
  · intro h
    obtain ⟨n, hn⟩ := exists_boundsFailure yields_rising fails_rising h
    exact ⟨n, (m.fails_bounds _ _ _).mpr hn⟩

end Bounds

section Report

variable {s : Settings} {n k : Nat} {t : T}

theorem report_eq (m : TypeModel T E) (s : Settings) (n : Nat) (t : T) :
    m.report s n t = ⟨((m.convert (s.effective m.convention) n t).outcome .start).1,
      s.events m.convention ++
        ((m.convert (s.effective m.convention) n t).outcome .start).2.log.reverse⟩ := rfl

theorem report_of_yields {a : TypeName} {q : Progress E}
    (h : (m.convert (s.effective m.convention) n t).Yields .start a q) :
    m.report s n t = ⟨.ok a, s.events m.convention ++ q.log.reverse⟩ := by
  rw [report_eq, h.outcome_eq]

theorem report_of_fails {err : ConversionError} {q : Progress E}
    (h : (m.convert (s.effective m.convention) n t).Fails .start err q) :
    m.report s n t = ⟨.error (.failed err), s.events m.convention ++ q.log.reverse⟩ := by
  rw [report_eq, h.outcome_eq]

theorem report_ends (h : (m.report s n t).result ≠ .error .exhausted) :
    (∃ a q, (m.convert (s.effective m.convention) n t).Yields .start a q) ∨
      ∃ err q, (m.convert (s.effective m.convention) n t).Fails .start err q :=
  outcome_cases h

theorem report_ok {a : TypeName} (h : (m.report s n t).result = .ok a) :
    ∃ q, (m.convert (s.effective m.convention) n t).Yields .start a q := by
  obtain ⟨b, q, hy⟩ | ⟨err, q, hf⟩ := report_ends (show (m.report s n t).result ≠ _ by simp [h])
  · rw [report_of_yields hy] at h
    cases h
    exact ⟨q, hy⟩
  · rw [report_of_fails hf] at h
    cases h

theorem report_mono (h : (m.report s n t).result ≠ .error .exhausted) (hk : n ≤ k) :
    m.report s k t = m.report s n t := by
  obtain ⟨a, q, hy⟩ | ⟨err, q, hf⟩ := report_ends h
  · rw [report_of_yields hy, report_of_yields (convert_yields_mono hy hk)]
  · rw [report_of_fails hf, report_of_fails (convert_fails_mono hf hk)]

end Report

end JavaTypes.TypeModel
