import Mathlib.Data.Set.Card
import JavaTypes.Proofs.Conversion.Memory
import JavaTypes.Proofs.Conversion.Tables

/-!
Conversion ends although bounds may be cyclic. On the way down either the type gets smaller or a
type variable is met that is not in the memo, and a successful conversion never forgets one.
-/

namespace JavaTypes.TypeModel

variable {T E : Type} [DecidableEq E] {m : TypeModel T E} {convention : Convention}

def unmet (m : TypeModel T E) (p : Progress E) : Set E :=
  {e | m.Declares e ∧ p.memo.get? e = none}

def Ends (m : TypeModel T E) (convention : Convention) (t : T) (p : Progress E) : Prop :=
  (∃ a q, m.Succeeds convention t p a q) ∨ ∃ err q, m.Fails convention t p err q

theorem unmet_subset {p q : Progress E} (h : q.Extends p) : m.unmet q ⊆ m.unmet p := by
  rintro e ⟨hd, hq⟩
  refine ⟨hd, ?_⟩
  cases hp : p.memo.get? e with
  | none => rfl
  | some v =>
    rw [h e v hp] at hq
    cases hq

theorem ncard_unmet_le {p q : Progress E} (hV : {e | m.Declares e}.Finite) (h : q.Extends p) :
    (m.unmet q).ncard ≤ (m.unmet p).ncard :=
  Set.ncard_le_ncard (unmet_subset h) (hV.subset fun _ he => he.1)

theorem unmet_remember_lt {p : Progress E} {e : E} (hV : {e | m.Declares e}.Finite)
    (hd : m.Declares e) (h : p.memo.get? e = none) (v : TypeVariable) :
    (m.unmet (p.remember e v)).ncard < (m.unmet p).ncard := by
  apply Set.ncard_lt_ncard
  · apply (Set.ssubset_iff_of_subset (unmet_subset (.remember p h v))).mpr
    refine ⟨e, ⟨hd, h⟩, fun hr => ?_⟩
    have hn := hr.2
    rw [Progress.remember_get?, if_pos rfl] at hn
    cases hn
  · exact hV.subset fun f hf => hf.1

section Step

variable {Y : T → Progress E → TypeName → Progress E → Prop}
  {F : T → Progress E → ConversionError → Progress E → Prop}
  {N : E → Except ConversionError ClassName → Prop} {t : T} {p : Progress E}

def EndsIn (Y : T → Progress E → TypeName → Progress E → Prop)
    (F : T → Progress E → ConversionError → Progress E → Prop) (t : T) (p : Progress E) : Prop :=
  (∃ a q, Y t p a q) ∨ ∃ err q, F t p err q

theorem ends_each (hY : ∀ {t p a q}, Y t p a q → q.Extends p) {ts : List T}
    (h : ∀ s ∈ ts, ∀ q, q.Extends p → EndsIn Y F s q) :
    (∃ as q, Each Y ts p as q) ∨ ∃ err q, Halts Y F ts p err q := by
  induction ts generalizing p with
  | nil => exact .inl ⟨[], p, .nil p⟩
  | cons t ts ih =>
    obtain ⟨a, q, ht⟩ | ⟨err, q, ht⟩ := h t List.mem_cons_self p (.refl p)
    · obtain ⟨as, r, hs⟩ | ⟨err, r, hs⟩ :=
        ih fun s hs r hr => h s (List.mem_cons_of_mem t hs) r (hr.trans (hY ht))
      · exact .inl ⟨a :: as, r, .cons ht hs⟩
      · exact .inr ⟨err, r, .later ht hs⟩
    · exact .inr ⟨err, q, .here ht⟩

theorem ends_parts (hY : ∀ {t p a q}, Y t p a q → q.Extends p)
    (h : ∀ s ∈ m.parts t, ∀ q, q.Extends p → EndsIn Y F s q) :
    (∃ as q, m.PartsStep Y t p as q) ∨ ∃ err q, m.PartsFailure Y F t p err q := by
  obtain ⟨as, q, hs⟩ | ⟨err, q, hs⟩ := ends_each hY h
  · by_cases ha : as.length < 2
    · exact .inr ⟨_, q, .tooFew hs ha⟩
    · exact .inl ⟨as, q, hs, by omega⟩
  · exact .inr ⟨err, q, .part hs⟩

omit [DecidableEq E] in
theorem bound_cases (hN : ∀ e, ∃ r, N e r) {b : T} (k : m.kind b ≠ .intersection) :
    m.ObjectBound N b ∨ m.PlainBound N b ∨ ∃ err, m.UnnamedBound N b err := by
  by_cases hb : m.kind b = .declared ∧ m.arguments b = [] ∧ (m.element? b).isSome
  · obtain ⟨kb, ha, he⟩ := hb
    obtain ⟨e, he⟩ := Option.isSome_iff_exists.mp he
    obtain ⟨r, hr⟩ := hN e
    cases r with
    | error err => exact .inr (.inr ⟨err, kb, ha, e, he, hr⟩)
    | ok c =>
      by_cases hc : c = .object
      · subst hc
        exact .inl ⟨kb, ha, e, he, hr⟩
      · refine .inr (.inl ⟨k, fun _ _ f hf => ?_⟩)
        cases he.symm.trans hf
        exact ⟨c, hr, hc⟩
  · exact .inr (.inl ⟨k, fun kb ha e he => absurd ⟨kb, ha, by simp [he]⟩ hb⟩)

theorem ends_bounds (hY : ∀ {t p a q}, Y t p a q → q.Extends p) (hN : ∀ e, ∃ r, N e r)
    (name : String) (h : ∀ b, m.upperBound? t = some b → ∀ s, s = b ∨ m.Inside s b →
      ∀ q, q.Extends p → EndsIn Y F s q) :
    (∃ as q, m.BoundsStep Y N convention t p as q) ∨
      ∃ err q, m.BoundsFailure Y F N name t p err q := by
  cases hb : m.upperBound? t with
  | none => exact .inr ⟨_, p, .noBound hb⟩
  | some b =>
    have h := h b hb
    by_cases k : m.kind b = .intersection
    · obtain ⟨as, q, hs⟩ | ⟨err, q, hs⟩ := ends_parts hY fun s hs => h s (.inr (.part k hs))
      · exact .inl ⟨_, q, .parts hb k hs⟩
      · exact .inr ⟨err, q, .parts hb k hs⟩
    · obtain ho | ho | ⟨err, ho⟩ := bound_cases hN k
      · exact .inl ⟨[], p, .object hb ho⟩
      · obtain ⟨a, q, hs⟩ | ⟨err, q, hs⟩ := h b (.inl rfl) p (.refl p)
        · exact .inl ⟨[a], q, .plain hb ho hs⟩
        · exact .inr ⟨err, q, .plain hb ho hs⟩
      · exact .inr ⟨err, p, .unnamed hb ho⟩

theorem ends_declared (hY : ∀ {t p a q}, Y t p a q → q.Extends p) (hN : ∀ e, ∃ r, N e r)
    (k : m.kind t = .declared) (h : ∀ s ∈ m.arguments t, ∀ q, q.Extends p → EndsIn Y F s q) :
    EndsIn (m.Step Y N convention) (m.Failure Y F N) t p := by
  cases he : m.element? t with
  | none => exact .inr ⟨_, _, .fault (.noElement k he)⟩
  | some e =>
    obtain ⟨r, hr⟩ := hN e
    cases r with
    | error err => exact .inr ⟨err, _, .fault (.className k he hr)⟩
    | ok c =>
      by_cases ha : m.arguments t = []
      · exact .inl ⟨_, _, .leaf (.named k he hr ha)⟩
      · obtain ⟨as, q, hs⟩ | ⟨err, q, hs⟩ := ends_each (p := p.met (m.kind t)) hY h
        · exact .inl ⟨_, q, .applied k he hr ha hs⟩
        · exact .inr ⟨err, q, .applied k he hr ha hs⟩

theorem ends_variable (hY : ∀ {t p a q}, Y t p a q → q.Extends p) (hN : ∀ e, ∃ r, N e r)
    (k : m.kind t = .typeVariable) (h : ∀ e b, m.element? t = some e → p.memo.get? e = none →
      m.upperBound? t = some b → ∀ s, s = b ∨ m.Inside s b →
      ∀ q, q.Extends (p.remember e (.unbounded (m.elementName e))) → EndsIn Y F s q) :
    EndsIn (m.Step Y N convention) (m.Failure Y F N) t p := by
  cases he : m.element? t with
  | none => exact .inr ⟨_, _, .fault (.noVariable k he)⟩
  | some e =>
    cases hv : p.memo.get? e with
    | some v => exact .inl ⟨_, _, .known k he hv⟩
    | none =>
      obtain ⟨as, q, hs⟩ | ⟨err, q, hs⟩ := ends_bounds hY hN (m.elementName e) (t := t)
        (p := (p.met (m.kind t)).remember e (.unbounded (m.elementName e)))
        fun b hb => h e b he hv hb
      · exact .inl ⟨_, _, .fresh k he hv hs⟩
      · exact .inr ⟨err, _, .fresh k he hv hs⟩

theorem step_or_failure (hY : ∀ {t p a q}, Y t p a q → q.Extends p) (hN : ∀ e, ∃ r, N e r)
    (hi : ∀ s, m.Inside s t → ∀ q, q.Extends p → EndsIn Y F s q)
    (hv : ∀ e b, m.kind t = .typeVariable → m.element? t = some e → p.memo.get? e = none →
      m.upperBound? t = some b → ∀ s, s = b ∨ m.Inside s b →
      ∀ q, q.Extends (p.remember e (.unbounded (m.elementName e))) → EndsIn Y F s q) :
    EndsIn (m.Step Y N convention) (m.Failure Y F N) t p := by
  cases k : m.kind t with
  | primitive => exact .inl ⟨_, _, .leaf (.primitive k)⟩
  | void => exact .inl ⟨_, _, .leaf (.void k)⟩
  | null => exact .inl ⟨_, _, .leaf (.null k)⟩
  | array =>
    cases hc : m.component? t with
    | none => exact .inr ⟨_, _, .fault (.noComponent k hc)⟩
    | some s =>
      obtain ⟨a, q, hs⟩ | ⟨err, q, hs⟩ :=
        hi s (.component k hc) (p.met (m.kind t)) (.refl p)
      · exact .inl ⟨_, q, .array k hc hs⟩
      · exact .inr ⟨err, q, .array k hc hs⟩
  | declared => exact ends_declared hY hN k fun s hs => hi s (.argument k hs)
  | typeVariable => exact ends_variable hY hN k fun e b => hv e b k
  | intersection =>
    obtain ⟨as, q, hs⟩ | ⟨err, q, hs⟩ :=
      ends_parts (p := p.met (m.kind t)) hY fun s hs => hi s (.part k hs)
    · exact .inl ⟨_, q, .parts k hs⟩
    · exact .inr ⟨err, q, .parts k hs⟩
  | _ => exact .inr ⟨_, _, .fault (.unsupported (by rw [k]; rfl))⟩

end Step

def EndsAt (m : TypeModel T E) (convention : Convention) (n : ℕ) : T → Progress E → Prop :=
  EndsIn (fun t => (m.convert convention n t).Yields) fun t => (m.convert convention n t).Fails

theorem endsAt_succ {n : ℕ} {t : T} {p : Progress E} (hN : ∀ e, ∃ r, m.NameAt n e r)
    (hi : ∀ s, m.Inside s t → ∀ q, q.Extends p → m.EndsAt convention n s q)
    (hv : ∀ e b, m.kind t = .typeVariable → m.element? t = some e → p.memo.get? e = none →
      m.upperBound? t = some b → ∀ s, s = b ∨ m.Inside s b →
      ∀ q, q.Extends (p.remember e (.unbounded (m.elementName e))) → m.EndsAt convention n s q) :
    m.EndsAt convention (n + 1) t p := by
  have hY {s r a q} (h : (m.convert convention n s).Yields r a q) : q.Extends r :=
    Succeeds.extends ⟨n, h⟩
  have hstep : EndsIn
      (m.Step (fun t => (m.convert convention n t).Yields) (m.NameAt n) convention)
      (m.Failure (fun t => (m.convert convention n t).Yields)
        (fun t => (m.convert convention n t).Fails) (m.NameAt n)) t p :=
    step_or_failure hY hN hi hv
  obtain ⟨x, q, h⟩ | ⟨err, q, h⟩ := hstep
  · exact .inl ⟨x, q, (m.yields_convertStep _ _ _).mpr h⟩
  · exact .inr ⟨err, q, (m.fails_convertStep _ _ _).mpr h⟩

theorem endsAt_unsupported {n : ℕ} {t : T} {p : Progress E}
    (k : (m.kind t).isSupported = false) : m.EndsAt convention (n + 1) t p :=
  .inr ⟨_, _, (m.fails_convertStep _ _ _).mpr (.fault (.unsupported k))⟩

theorem EndsAt.report_ne_exhausted {settings : Settings} {n : ℕ} {t : T}
    (h : m.EndsAt (settings.effective m.convention) n t .start) :
    (m.report settings n t).result ≠ .error .exhausted := by
  obtain ⟨x, q, h⟩ | ⟨err, q, h⟩ := h
  · rw [report_of_yields h]
    exact nofun
  · rw [report_of_fails h]
    exact nofun

theorem ends_of_below (hE : WellFounded m.Encloses) {t : T} {p : Progress E}
    (hi : ∀ s, m.Inside s t → ∀ q, q.Extends p → m.Ends convention s q)
    (hv : ∀ e b, m.kind t = .typeVariable → m.element? t = some e → p.memo.get? e = none →
      m.upperBound? t = some b → ∀ s, s = b ∨ m.Inside s b →
      ∀ q, q.Extends (p.remember e (.unbounded (m.elementName e))) → m.Ends convention s q) :
    m.Ends convention t p := by
  have hstep : EndsIn (m.Step (m.Succeeds convention) m.HasName convention)
      (m.Failure (m.Succeeds convention) (m.Fails convention) m.HasName) t p :=
    step_or_failure Succeeds.extends (HasName.total hE) hi hv
  obtain ⟨a, q, hs⟩ | ⟨err, q, hs⟩ := hstep
  · exact .inl ⟨a, q, .of_step hs⟩
  · exact .inr ⟨err, q, .of_step hs⟩

theorem ends_of_unmet_lt (hV : {e | m.Declares e}.Finite) (hI : WellFounded m.Inside)
    (hE : WellFounded m.Encloses) (n : ℕ) (t : T) (p : Progress E)
    (hn : (m.unmet p).ncard < n) : m.Ends convention t p := by
  induction n generalizing t p with
  | zero => omega
  | succ n ihn =>
    -- Below a bound there are fewer variables to meet; everywhere else the type is inside `t`.
    induction t using hI.induction generalizing p with
    | _ t iht =>
      apply ends_of_below hE
      · intro s hs q hq
        exact iht s hs q (Nat.lt_of_le_of_lt (ncard_unmet_le hV hq) hn)
      · intro e b k he hv _ s _ q hq
        have hlt := unmet_remember_lt hV ⟨t, k, he⟩ hv (.unbounded (m.elementName e))
        have hle := ncard_unmet_le hV hq
        exact ihn s q (by omega)

theorem report_settles (settings : Settings) (t : T) (hV : {e | m.Declares e}.Finite)
    (hI : WellFounded m.Inside) (hE : WellFounded m.Encloses) :
    (∃ n, ∃ r : Except ConversionError TypeName,
      (m.report settings n t).result = r.mapError .failed) ∧
    ∀ n k, n ≤ k → (m.report settings n t).result ≠ .error .exhausted →
      m.report settings k t = m.report settings n t := by
  refine ⟨?_, fun n k hk h => report_mono h hk⟩
  have ends : m.Ends (settings.effective m.convention) t .start :=
    ends_of_unmet_lt hV hI hE _ t .start (Nat.lt_succ_self _)
  obtain ⟨a, q, n, hy⟩ | ⟨err, q, n, hf⟩ := ends
  · exact ⟨n, .ok a, by rw [report_of_yields hy]; rfl⟩
  · exact ⟨n, .error err, by rw [report_of_fails hf]; rfl⟩

theorem mutualBounds_settles :
    {e | Table.mutualBounds.model.Declares e}.Finite ∧
    WellFounded Table.mutualBounds.model.Inside ∧ WellFounded Table.mutualBounds.model.Encloses ∧
    (∃ n, ∃ r : Except ConversionError TypeName,
      (Table.mutualBounds.model.report ⟨some .flatten⟩ n 0).result = r.mapError .failed) ∧
    ∀ n k, n ≤ k → (Table.mutualBounds.model.report ⟨some .flatten⟩ n 0).result ≠
        .error .exhausted →
      Table.mutualBounds.model.report ⟨some .flatten⟩ k 0 =
        Table.mutualBounds.model.report ⟨some .flatten⟩ n 0 := by
  have hV := Table.mutualBounds.declares_finite
  have hI : WellFounded Table.mutualBounds.model.Inside :=
    Table.mutualBounds.inside_wellFounded (fun i => [0, 0, 2, 1, 1, 0].getD i 0) (by decide)
  have hE : WellFounded Table.mutualBounds.model.Encloses :=
    Table.mutualBounds.encloses_wellFounded (fun i => [0, 0, 1, 0].getD i 0) (by decide)
  exact ⟨hV, hI, hE, report_settles ⟨some .flatten⟩ 0 hV hI hE⟩

end JavaTypes.TypeModel
