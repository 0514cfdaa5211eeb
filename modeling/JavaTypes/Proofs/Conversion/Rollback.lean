import JavaTypes.Proofs.Conversion.Resolution
import JavaTypes.Proofs.Conversion.Tables

/-!
What a conversion does to the memo it starts with, whether it succeeds or fails. It keeps what it
finds there and adds the values of the variables whose bounds it converts. A variable whose bounds
fail leaves nothing behind, not even its placeholder.
-/

namespace JavaTypes.TypeModel

open Conversion

variable {T E : Type} [DecidableEq E]

/-- At `x` the bounds of `e` are converted, and `e` gets the value `v`. -/
def ResolvesAs (m : TypeModel T E) (convention : Convention) (e : E) (v : TypeVariable)
    (x : T × Progress E) : Prop :=
  m.Resolving e x ∧ ∃ n as r,
    (m.bounds convention n (m.convert convention n) (m.elementName e) x.1).Yields
      (m.entered x.1 e x.2) as r ∧ v = ⟨m.elementName e, as⟩

def FailsToResolve (m : TypeModel T E) (convention : Convention) (e : E) (x : T × Progress E) :
    Prop :=
  m.Resolving e x ∧ ∃ n err r,
    (m.bounds convention n (m.convert convention n) (m.elementName e) x.1).Fails
      (m.entered x.1 e x.2) err r

def Resolves (m : TypeModel T E) (convention : Convention) (e : E) (v : TypeVariable)
    (x : T × Progress E) : Prop :=
  ∃ y, m.Within convention y x ∧ m.ResolvesAs convention e v y

def called (m : TypeModel T E) (convention : Convention) (x : T × Progress E) :
    Set (T × Progress E) :=
  {y | m.Calls convention x y}

/-- The conversions that a run over a list comes to start, up to the first that fails. -/
def taken (m : TypeModel T E) (convention : Convention) (ts : List T) (p : Progress E) :
    Set (T × Progress E) :=
  {y | ∃ before after as, ts = before ++ y.1 :: after ∧
    Each (m.Succeeds convention) before p as y.2}

/-- On the way from `p` to `q`, the memo gets what these conversions add and nothing else. -/
def Adds (m : TypeModel T E) (convention : Convention) (X : Set (T × Progress E))
    (p q : Progress E) : Prop :=
  ∀ e v, q.memo.get? e = some v ↔
    p.memo.get? e = some v ∨ ∃ x ∈ X, m.Resolves convention e v x

def Adding (m : TypeModel T E) (convention : Convention) (t : T) (p q : Progress E) : Prop :=
  m.Adds convention {(t, p)} p q

variable {m : TypeModel T E} {convention : Convention} {t : T} {e : E} {v w : TypeVariable}
  {p q r : Progress E} {ts : List T} {x y : T × Progress E}

section Resolving

theorem resolvesAs_of_boundsStep {as : List TypeName} (hx : m.Resolving e (t, p))
    (h : m.BoundsStep (m.Succeeds convention) m.HasName convention t (m.entered t e p) as r) :
    m.ResolvesAs convention e ⟨m.elementName e, as⟩ (t, p) := by
  obtain ⟨n, hn⟩ := exists_yields_bounds_iff.mpr h
  exact ⟨hx, n, as, r, hn, rfl⟩

theorem ResolvesAs.succeeds (h : m.ResolvesAs convention e v x) :
    ∃ q, m.Succeeds convention x.1 x.2 v.typeName q ∧ q.memo.get? e = some v := by
  obtain ⟨⟨⟨k, he⟩, hv⟩, n, as, r, hs, rfl⟩ := h
  refine ⟨_, .of_step (.fresh k he hv (exists_yields_bounds_iff.mp ⟨n, hs⟩)), ?_⟩
  rw [Progress.remember_get?, if_pos rfl]

theorem FailsToResolve.fails (h : m.FailsToResolve convention e x) :
    ∃ err q, m.Fails convention x.1 x.2 err q := by
  obtain ⟨⟨⟨k, he⟩, hv⟩, n, err, r, hs⟩ := h
  exact ⟨err, _, .of_step (.fresh k he hv (exists_fails_bounds_iff.mp ⟨n, hs⟩))⟩

theorem ResolvesAs.unique (h : m.ResolvesAs convention e v x)
    (h' : m.ResolvesAs convention e w x) : v = w := by
  obtain ⟨q, hq, hv⟩ := h.succeeds
  obtain ⟨r, hr, hw⟩ := h'.succeeds
  cases (hq.unique hr).2
  exact Option.some.inj (hv.symm.trans hw)

end Resolving

section Calls

theorem Opens.called_eq (ho : m.Opens t p ts r) :
    m.called convention (t, p) = m.taken convention ts r := by
  ext y
  constructor
  · rintro ⟨before, after, u, as, ho', hb⟩
    obtain ⟨heq, rfl⟩ := ho.unique ho'
    exact ⟨before, after, as, heq, hb⟩
  · rintro ⟨before, after, as, rfl, hb⟩
    exact ⟨before, after, r, as, ho, hb⟩

theorem taken_nil (p : Progress E) : m.taken convention [] p = ∅ := by
  ext y
  simp [taken]

theorem mem_taken_cons : y ∈ m.taken convention (t :: ts) p ↔
    y = (t, p) ∨ ∃ a q, m.Succeeds convention t p a q ∧ y ∈ m.taken convention ts q := by
  constructor
  · rintro ⟨before, after, as, heq, hb⟩
    cases hb with
    | nil =>
      cases heq
      exact .inl rfl
    | cons hs hb =>
      cases heq
      exact .inr ⟨_, _, hs, _, after, _, rfl, hb⟩
  · rintro (rfl | ⟨a, q, hs, before, after, as, rfl, hb⟩)
    · exact ⟨[], ts, [], rfl, .nil _⟩
    · exact ⟨t :: before, after, a :: as, rfl, .cons hs hb⟩

theorem taken_cons_of_succeeds {a : TypeName} (h : m.Succeeds convention t p a q) :
    m.taken convention (t :: ts) p = {(t, p)} ∪ m.taken convention ts q := by
  ext y
  rw [mem_taken_cons]
  constructor
  · rintro (rfl | ⟨b, u, hs, hy⟩)
    · exact .inl rfl
    · cases (h.unique hs).2
      exact .inr hy
  · rintro (rfl | hy)
    · exact .inl rfl
    · exact .inr ⟨a, q, h, hy⟩

theorem taken_cons_of_fails {err : ConversionError} (h : m.Fails convention t p err q) :
    m.taken convention (t :: ts) p = {(t, p)} := by
  ext y
  rw [mem_taken_cons]
  constructor
  · rintro (rfl | ⟨a, u, hs, -⟩)
    · rfl
    · exact absurd h hs.not_fails
  · rintro rfl
    exact .inl rfl

theorem resolves_iff : m.Resolves convention e v x ↔
    m.ResolvesAs convention e v x ∨ ∃ y ∈ m.called convention x, m.Resolves convention e v y := by
  constructor
  · rintro ⟨z, hz, hv⟩
    obtain rfl | ⟨y, hy, hz⟩ := hz.cases_head
    · exact .inl hv
    · exact .inr ⟨y, hy, z, hz, hv⟩
  · rintro (hv | ⟨y, hy, z, hz, hv⟩)
    · exact ⟨x, .refl, hv⟩
    · exact ⟨z, hz.head hy, hv⟩

theorem Resolving.resolves_iff (hx : m.Resolving e x) :
    m.Resolves convention e v x ↔ m.ResolvesAs convention e v x := by
  constructor
  · rintro ⟨y, hy, hv⟩
    cases hx.eq_of_within hy hv.1
    exact hv
  · exact fun hv => ⟨x, .refl, hv⟩

end Calls

namespace Adds

theorem refl (p : Progress E) : m.Adds convention ∅ p p := by
  intro e v
  simp

theorem trans {X Y : Set (T × Progress E)} (h : m.Adds convention X p q)
    (h' : m.Adds convention Y q r) : m.Adds convention (X ∪ Y) p r := by
  intro e v
  rw [h' e v, h e v, or_assoc]
  simp only [Set.mem_union, or_and_right, exists_or]

theorem of_met {kind : TypeKind} {X : Set (T × Progress E)}
    (h : m.Adds convention X (p.met kind) q) : m.Adds convention X p q := h

theorem of_no_calls (h : ∀ ts r, m.Opens t p ts r → ts = []) (q : Progress E) :
    m.Adds convention (m.called convention (t, p)) q q := by
  have hc : m.called convention (t, p) = ∅ := by
    rw [Set.eq_empty_iff_forall_notMem]
    rintro y ⟨before, after, r, as, ho, -⟩
    exact absurd (h _ _ ho) (List.append_ne_nil_of_right_ne_nil _ (List.cons_ne_nil _ _))
  rw [hc]
  exact .refl q

theorem of_not_resolving (hx : ∀ e, ¬ m.Resolving e (t, p))
    (h : m.Adds convention (m.called convention (t, p)) p q) :
    m.Adding convention t p q := by
  intro e v
  have hn : ¬ m.ResolvesAs convention e v (t, p) := fun hv => hx e hv.1
  rw [h e v]
  simp [resolves_iff (x := (t, p)), hn]

theorem of_opens (k : m.kind t ≠ .typeVariable) (ho : m.Opens t p ts (p.met (m.kind t)))
    (h : m.Adds convention (m.taken convention ts (p.met (m.kind t))) (p.met (m.kind t)) q) :
    m.Adding convention t p q := by
  rw [← ho.called_eq] at h
  exact .of_not_resolving (fun _ hx => k hx.1.1) h.of_met

theorem of_resolving (hx : m.Resolving e (t, p))
    (h : m.Adds convention (m.called convention (t, p)) (m.entered t e p) r)
    (hne : ∀ f, e ≠ f → q.memo.get? f = r.memo.get? f)
    (he : ∀ v, q.memo.get? e = some v ↔ m.ResolvesAs convention e v (t, p)) :
    m.Adding convention t p q := by
  intro f v
  simp only [Set.mem_singleton_iff, exists_eq_left]
  by_cases hf : e = f
  · subst hf
    have hp : p.memo.get? e ≠ some v := by
      intro hv
      cases hv.symm.trans hx.2
    rw [he v, hx.resolves_iff]
    simp [hp]
  · have hn : ¬ m.ResolvesAs convention f v (t, p) := by
      intro hv
      exact hf (Option.some.inj (hx.1.2.symm.trans hv.1.1.2))
    have hp : (m.entered t e p).memo.get? f = p.memo.get? f := by
      rw [entered, Progress.remember_get?, if_neg hf]
      rfl
    rw [hne f hf, h f v, hp, resolves_iff]
    simp [hn]

end Adds

section Steps

variable {R : T → Progress E → TypeName → Progress E → Prop}
  {F : T → Progress E → ConversionError → Progress E → Prop} {as : List TypeName}
  {err : ConversionError}
  (hR : ∀ {t p a q}, R t p a q → m.Succeeds convention t p a q ∧ m.Adding convention t p q)
include hR

theorem adds_each (h : Each R ts p as q) : m.Adds convention (m.taken convention ts p) p q := by
  induction h with
  | nil p =>
    rw [taken_nil]
    exact .refl p
  | cons h _ ih =>
    obtain ⟨hs, ha⟩ := hR h
    rw [taken_cons_of_succeeds hs]
    exact ha.trans ih

theorem BoundsStep.adds (hx : m.Resolving e (t, p))
    (h : m.BoundsStep R m.HasName convention t (m.entered t e p) as q) :
    m.Adds convention (m.called convention (t, p)) (m.entered t e p) q := by
  obtain ⟨⟨k, he⟩, hv⟩ := hx
  cases h with
  | object hb hob =>
    apply Adds.of_no_calls
    intro ts r ho
    obtain ⟨-, -, b, hb', hn, -⟩ := ho.of_variable k he
    cases hb.symm.trans hb'
    exact absurd hob hn
  | parts hb kb hs =>
    rw [(Opens.boundParts k he hv hb kb).called_eq]
    exact adds_each hR hs.1
  | plain hb hob hs =>
    rw [(Opens.bound k he hv hb hob).called_eq]
    exact adds_each hR (.cons hs (.nil _))

theorem Step.adding {a : TypeName} (h : m.Step R m.HasName convention t p a q) :
    m.Adding convention t p q := by
  cases h with
  | leaf hl =>
    apply Adds.of_not_resolving
    · exact fun _ hx => hl.kind_ne hx.1.1
    · exact .of_no_calls (fun _ _ ho => (ho.of_leaf hl).1) p
  | array k hc hs =>
    apply Adds.of_opens (by simp [k]) (.component k hc)
    exact adds_each hR (.cons hs (.nil _))
  | applied k he hc _ hs =>
    apply Adds.of_opens (by simp [k]) (.arguments k he hc)
    exact adds_each hR hs
  | parts k hs =>
    apply Adds.of_opens (by simp [k]) (.parts k)
    exact adds_each hR hs.1
  | @known e v _ k he hv =>
    apply Adds.of_not_resolving
    · intro f hx
      cases he.symm.trans hx.1.2
      cases hv.symm.trans hx.2
    · apply Adds.of_no_calls
      intro ts r ho
      cases hv.symm.trans (ho.of_variable k he).1
  | @fresh e _ as r k he hv hs =>
    have hx : m.Resolving e (t, p) := ⟨⟨k, he⟩, hv⟩
    have has : m.ResolvesAs convention e ⟨m.elementName e, as⟩ (t, p) :=
      resolvesAs_of_boundsStep hx (BoundsStep.mono hs (fun h => (hR h).1) id)
    apply Adds.of_resolving hx (BoundsStep.adds hR hx hs)
    · intro f hf
      rw [Progress.remember_get?, if_neg hf]
    · intro v
      rw [Progress.remember_get?, if_pos rfl, Option.some.injEq]
      constructor
      · rintro rfl
        exact has
      · exact has.unique

variable (hF : ∀ {t p err q}, F t p err q →
  m.Fails convention t p err q ∧ m.Adding convention t p q)
include hF

theorem adds_halts (h : Halts R F ts p err q) :
    m.Adds convention (m.taken convention ts p) p q := by
  induction h with
  | here h =>
    obtain ⟨hf, ha⟩ := hF h
    rw [taken_cons_of_fails hf]
    exact ha
  | later h _ ih =>
    obtain ⟨hs, ha⟩ := hR h
    rw [taken_cons_of_succeeds hs]
    exact ha.trans ih

theorem PartsFailure.adds (h : m.PartsFailure R F t p err q) :
    m.Adds convention (m.taken convention (m.parts t) p) p q := by
  cases h with
  | part h => exact adds_halts hR hF h
  | tooFew h => exact adds_each hR h

theorem BoundsFailure.adds (hx : m.Resolving e (t, p))
    (h : m.BoundsFailure R F m.HasName (m.elementName e) t (m.entered t e p) err q) :
    m.Adds convention (m.called convention (t, p)) (m.entered t e p) q := by
  obtain ⟨⟨k, he⟩, hv⟩ := hx
  cases h with
  | noBound hb =>
    apply Adds.of_no_calls
    intro ts r ho
    obtain ⟨-, -, b, hb', -⟩ := ho.of_variable k he
    cases hb.symm.trans hb'
  | unnamed hb hu =>
    apply Adds.of_no_calls
    intro ts r ho
    obtain ⟨-, -, b, hb', -, hn⟩ := ho.of_variable k he
    cases hb.symm.trans hb'
    exact absurd hu (hn err)
  | parts hb kb hs =>
    rw [(Opens.boundParts k he hv hb kb).called_eq]
    exact PartsFailure.adds hR hF hs
  | plain hb hob hs =>
    rw [(Opens.bound k he hv hb hob).called_eq]
    exact adds_halts hR hF (.here hs)

theorem Failure.adding (h : m.Failure R F m.HasName t p err q) : m.Adding convention t p q := by
  have hf : m.Fails convention t p err q :=
    .of_step (h.mono (fun h => (hR h).1) (fun h => (hF h).1) id)
  cases h with
  | fault hft =>
    apply Adds.of_not_resolving
    · exact fun _ => hft.not_resolving
    · exact .of_no_calls (fun _ _ ho => absurd hft ho.not_fault) p
  | array k hc hs =>
    apply Adds.of_opens (by simp [k]) (.component k hc)
    exact adds_halts hR hF (.here hs)
  | applied k he hc _ hs =>
    apply Adds.of_opens (by simp [k]) (.arguments k he hc)
    exact adds_halts hR hF hs
  | parts k hs =>
    apply Adds.of_opens (by simp [k]) (.parts k)
    exact PartsFailure.adds hR hF hs
  | @fresh e _ _ r k he hv hs =>
    have hx : m.Resolving e (t, p) := ⟨⟨k, he⟩, hv⟩
    apply Adds.of_resolving hx (BoundsFailure.adds hR hF hx hs)
    · intro f hf
      rw [Progress.forget_get?, if_neg hf]
    · intro v
      rw [Progress.forget_get?, if_pos rfl]
      constructor
      · intro h
        cases h
      · intro hv
        obtain ⟨u, hs, -⟩ := hv.succeeds
        exact absurd hf hs.not_fails

end Steps

theorem Succeeds.adding {a : TypeName} (h : m.Succeeds convention t p a q) :
    m.Adding convention t p q := by
  have ha : m.Succeeds convention t p a q ∧ m.Adding convention t p q := by
    apply h.induct (P := fun t p a q => m.Succeeds convention t p a q ∧ m.Adding convention t p q)
    intro t p a q h
    exact ⟨.of_step (h.mono And.left id), h.adding id⟩
  exact ha.2

theorem Fails.adding {err : ConversionError} (h : m.Fails convention t p err q) :
    m.Adding convention t p q := by
  have ha : m.Fails convention t p err q ∧ m.Adding convention t p q := by
    apply h.induct (Q := fun t p err q => m.Fails convention t p err q ∧ m.Adding convention t p q)
    intro t p err q h
    refine ⟨.of_step (h.mono id And.left id), ?_⟩
    exact h.adding (fun hs => ⟨hs, hs.adding⟩) id
  exact ha.2

section Outcome

variable (h : m.Adding convention t p q)
include h

theorem Adding.extends : q.Extends p := by
  intro e v hv
  exact (h e v).mpr (.inl hv)

theorem Adding.get?_iff (hp : p.memo.get? e = none) :
    q.memo.get? e = some v ↔ m.Resolves convention e v (t, p) := by
  rw [h e v, hp]
  simp

theorem Adding.get?_of_failsToResolve (hy : m.Within convention y (t, p))
    (hf : m.FailsToResolve convention e y) : q.memo.get? e = none := by
  rw [Option.eq_none_iff_forall_ne_some]
  intro v hv
  obtain hv | ⟨_, rfl, z, hz, hr⟩ := (h e v).mp hv
  · exact hy.not_resolving ⟨v, hv⟩ hf.1
  · -- The bounds of `e` are converted once, so they do not succeed elsewhere.
    cases hy.eq_of_resolving hz hf.1 hr.1
    obtain ⟨u, hs, -⟩ := hr.succeeds
    obtain ⟨err, w, hf⟩ := hf.fails
    exact hs.not_fails hf

end Outcome

theorem memo_after_convert {n : Nat} {result : Except Halt TypeName}
    (h : (m.convert convention n t).outcome p = (result, q))
    (hr : result ≠ .error .exhausted) :
    (∀ e v, p.memo.get? e = some v → q.memo.get? e = some v) ∧
    (∀ e v, p.memo.get? e = none →
      (q.memo.get? e = some v ↔ m.Resolves convention e v (t, p))) ∧
    ∀ e y, m.Within convention y (t, p) → m.FailsToResolve convention e y →
      (∃ err, result = .error (.failed err)) ∧ q.memo.get? e = none := by
  have hne : ((m.convert convention n t).outcome p).1 ≠ .error .exhausted := by
    rw [h]
    exact hr
  obtain ⟨a, u, hy⟩ | ⟨err, u, hf⟩ := outcome_cases hne
  · cases h.symm.trans hy.outcome_eq
    have hs : m.Succeeds convention t p a q := ⟨n, hy⟩
    refine ⟨hs.adding.extends, fun e v => hs.adding.get?_iff, fun e y hy hf => ?_⟩
    obtain ⟨b, v, hb, -⟩ := hy.succeeds hs
    obtain ⟨err, w, hf⟩ := hf.fails
    exact absurd hf hb.not_fails
  · cases h.symm.trans hf.outcome_eq
    have hf : m.Fails convention t p err q := ⟨n, hf⟩
    refine ⟨hf.adding.extends, fun e v => hf.adding.get?_iff, fun e y hy hfy => ?_⟩
    exact ⟨⟨err, rfl⟩, hf.adding.get?_of_failsToResolve hy hfy⟩

/-- `A` is bounded by `B` and a wildcard, where `B extends Comparable<A>`. -/
def brokenBounds : Table where
  types := #[⟨.typeVariable, none, some 0, some 1, [], []⟩,
    ⟨.intersection, none, none, none, [], [2, 3]⟩,
    ⟨.typeVariable, none, some 1, some 4, [], []⟩,
    ⟨.wildcard, none, none, none, [], []⟩,
    ⟨.declared, none, some 2, none, [0], []⟩]
  elements := #[⟨.typeParameter, "A", none⟩, ⟨.typeParameter, "B", none⟩,
    ⟨.type, "Comparable", some 3⟩, ⟨.package, "java.lang", none⟩, ⟨.typeParameter, "C", none⟩]
  convention := .wrap

def beforeBroken : Progress Nat := ⟨[(4, ⟨"C", [.void]⟩)], []⟩

def afterBroken : Progress Nat :=
  ⟨[(1, ⟨"B", [Table.comparable "A"]⟩), (4, ⟨"C", [.void]⟩)],
    [.converting .wildcard, .reused "A", .converting .typeVariable, .converting .declared,
      .converting .typeVariable, .converting .typeVariable]⟩

theorem brokenBounds_memo :
    (brokenBounds.model.convert .wrap 10 0).outcome beforeBroken =
      (.error (.failed (.unsupported .wildcard)), afterBroken) ∧
    afterBroken.memo.get? 4 = some ⟨"C", [.void]⟩ ∧
    brokenBounds.model.Resolves .wrap 1 ⟨"B", [Table.comparable "A"]⟩ (0, beforeBroken) ∧
    brokenBounds.model.FailsToResolve .wrap 0 (0, beforeBroken) ∧
    afterBroken.memo.get? 0 = none := by
  have h : (brokenBounds.model.convert .wrap 10 0).outcome beforeBroken =
      (.error (.failed (.unsupported .wildcard)), afterBroken) := rfl
  have hA : brokenBounds.model.FailsToResolve .wrap 0 (0, beforeBroken) :=
    ⟨⟨⟨rfl, rfl⟩, rfl⟩, 10, .unsupported .wildcard, _, rfl⟩
  obtain ⟨kept, added, failed⟩ := memo_after_convert h (by simp)
  exact ⟨h, kept 4 _ rfl, (added 1 _ rfl).mp rfl, hA, (failed 0 _ .refl hA).2⟩

end JavaTypes.TypeModel
