import JavaTypes.Proofs.Conversion.Simulation

namespace JavaTypes.TypeModel

open Conversion

variable {T T' E E' : Type} [DecidableEq E] [DecidableEq E'] {m : TypeModel T E}
  {m' : TypeModel T' E'} {S : T → T' → Prop} {U : E → E' → Prop}
  {R : TypeName → TypeName → Prop} {c c' : Convention}

section

variable {N : E → Except ConversionError ClassName → Prop}
  {N' : E' → Except ConversionError ClassName → Prop}
  {Y : T → Progress E → TypeName → Progress E → Prop}
  {Z : T' → Progress E' → TypeName → Progress E' → Prop}
  {F : T → Progress E → ConversionError → Progress E → Prop}
  {G : T' → Progress E' → ConversionError → Progress E' → Prop}

theorem Linked.placeholder (hm : m.Similar m' S U) (hR : Respects c c' R) {p : Progress E}
    {p' : Progress E'} (hp : Linked m m' U R p p') {e : E} {e' : E'} (he : U e e')
    (hd : m.Declares e) (hd' : m'.Declares e') :
    Linked m m' U R (p.remember e (.unbounded (m.elementName e)))
      (p'.remember e' (.unbounded (m'.elementName e'))) := by
  apply hp.remember hm he hd hd' (hm.elementName he)
  rw [hm.elementName he]
  exact hR.unbounded _

theorem Step.simulates (hm : m.Similar m' S U) (hR : Respects c c' R) (hN : Agrees U N N')
    (hY : Simulates S (Linked m m' U R) R Y Z)
    (hYi : ∀ {t p as q}, Y t p (.intersection as) q → m.kind t = .intersection)
    (hZi : ∀ {t p as q}, Z t p (.intersection as) q → m'.kind t = .intersection) :
    Simulates S (Linked m m' U R) R (m.Step Y N c) (m'.Step Z N' c') := by
  intro t t' p p' a q ht hp hs
  have hk := hm.kind ht
  cases hs with
  | leaf h =>
    obtain ⟨a', h', ha⟩ := h.simulates hm hR hN ht
    exact ⟨a', _, .leaf h', ha, hp.met hk⟩
  | array k h hs =>
    obtain ⟨s', h', hss⟩ := optionRel_some (hm.component ht) h
    obtain ⟨a', q', hs', ha, hq⟩ := hY hss (hp.met hk) hs
    exact ⟨_, q', .array (hk ▸ k) h' hs', hR.array ha, hq⟩
  | applied k he hc ha hs =>
    obtain ⟨e', he', heU⟩ := optionRel_some (hm.element ht) he
    obtain ⟨as', q', hs', has, hq⟩ := hY.each (hm.arguments ht) (hp.met hk) hs
    have ha' : m'.arguments t' ≠ [] := mt (arguments_eq_nil_iff hm ht).mpr ha
    exact ⟨_, q', .applied (hk ▸ k) he' (hN heU hc) ha' hs', hR.parameterized _ has, hq⟩
  | parts k hs =>
    obtain ⟨as', q', hs', has, hq⟩ := PartsStep.simulates hm hY ht (hp.met hk) hs
    exact ⟨_, q', .parts (hk ▸ k) hs', hR.intersection has, hq⟩
  | known k he hv =>
    obtain ⟨e', he', heU⟩ := optionRel_some (hm.element ht) he
    obtain ⟨w, hw, hn, hR⟩ :=
      optionRel_some (hp.memo heU ⟨t, k, he⟩ ⟨t', hk ▸ k, he'⟩) hv
    refine ⟨w.typeName, _, .known (hk ▸ k) he' hw, hR, ?_⟩
    rw [← hn]
    exact (hp.met hk).emit _
  | @fresh e _ as _ k he hv hs =>
    obtain ⟨e', he', heU⟩ := optionRel_some (hm.element ht) he
    have hd : m.Declares e := ⟨t, k, he⟩
    have hd' : m'.Declares e' := ⟨t', hk ▸ k, he'⟩
    have hn := hm.elementName heU
    obtain ⟨as', q', hs', has, hq⟩ := BoundsStep.simulates hm hR hN hY hYi hZi ht
      ((hp.met hk).placeholder hm hR heU hd hd') hs
    have ha : R (.typeVariable (m.elementName e) as) (.typeVariable (m'.elementName e') as') :=
      hn ▸ has _
    exact ⟨_, _, .fresh (hk ▸ k) he' (optionRel_none (hp.memo heU hd hd') hv) hs', ha,
      hq.remember hm heU hd hd' hn ha⟩

theorem Failure.simulates (hm : m.Similar m' S U) (hR : Respects c c' R) (hN : Agrees U N N')
    (hY : Simulates S (Linked m m' U R) R Y Z) (hF : Simulates S (Linked m m' U R) Eq F G) :
    Simulates S (Linked m m' U R) Eq (m.Failure Y F N) (m'.Failure Z G N') := by
  intro t t' p p' err q ht hp hs
  have hk := hm.kind ht
  cases hs with
  | fault h => exact ⟨err, _, .fault (h.simulates hm hN ht), rfl, hp.met hk⟩
  | array k h hs =>
    obtain ⟨s', h', hss⟩ := optionRel_some (hm.component ht) h
    obtain ⟨_, q', hs', rfl, hq⟩ := hF hss (hp.met hk) hs
    exact ⟨err, q', .array (hk ▸ k) h' hs', rfl, hq⟩
  | applied k he hc ha hs =>
    obtain ⟨e', he', heU⟩ := optionRel_some (hm.element ht) he
    obtain ⟨_, q', hs', rfl, hq⟩ := hY.halts hF (hm.arguments ht) (hp.met hk) hs
    have ha' : m'.arguments t' ≠ [] := mt (arguments_eq_nil_iff hm ht).mpr ha
    exact ⟨err, q', .applied (hk ▸ k) he' (hN heU hc) ha' hs', rfl, hq⟩
  | parts k hs =>
    obtain ⟨_, q', hs', rfl, hq⟩ := PartsFailure.simulates hm hY hF ht (hp.met hk) hs
    exact ⟨err, q', .parts (hk ▸ k) hs', rfl, hq⟩
  | @fresh e _ _ _ k he hv hs =>
    obtain ⟨e', he', heU⟩ := optionRel_some (hm.element ht) he
    have hd : m.Declares e := ⟨t, k, he⟩
    have hd' : m'.Declares e' := ⟨t', hk ▸ k, he'⟩
    obtain ⟨_, q', hs', rfl, hq⟩ := BoundsFailure.simulates hm hN hY hF (m.elementName e) ht
      ((hp.met hk).placeholder hm hR heU hd hd') hs
    rw [hm.elementName heU] at hs'
    exact ⟨err, _, .fresh (hk ▸ k) he' (optionRel_none (hp.memo heU hd hd') hv) hs', rfl,
      hq.forget hm heU hd hd'⟩

end

theorem convert_kind_of_intersection {n : Nat} {t : T} {p q : Progress E} {as : List TypeName}
    (h : (m.convert c n t).Yields p (.intersection as) q) : m.kind t = .intersection := by
  cases n with
  | zero => exact absurd h yields_throw
  | succ n =>
    exact ((m.yields_convertStep _ _ _).mp h).kind_eq_intersection_iff.mpr ⟨as, rfl⟩

theorem convert_simulates (hm : m.Similar m' S U) (hR : Respects c c' R) (n : Nat) :
    Simulates S (Linked m m' U R) R (fun t => (m.convert c n t).Yields)
        (fun t => (m'.convert c' n t).Yields) ∧
      Simulates S (Linked m m' U R) Eq (fun t => (m.convert c n t).Fails)
        (fun t => (m'.convert c' n t).Fails) := by
  induction n with
  | zero =>
    exact ⟨fun _ _ _ _ _ _ _ _ h => absurd h yields_throw,
      fun _ _ _ _ _ _ _ _ h => by cases (fails_throw.mp h).1⟩
  | succ n ih =>
    have hN := hm.agrees n
    constructor
    · intro t t' p p' a q ht hp h
      obtain ⟨a', q', h', ha, hq⟩ := Step.simulates hm hR hN ih.1 convert_kind_of_intersection
        convert_kind_of_intersection ht hp ((m.yields_convertStep _ _ _).mp h)
      exact ⟨a', q', (m'.yields_convertStep _ _ _).mpr h', ha, hq⟩
    · intro t t' p p' err q ht hp h
      obtain ⟨err', q', h', he, hq⟩ := Failure.simulates hm hR hN ih.1 ih.2 ht hp
        ((m.fails_convertStep _ _ _).mp h)
      exact ⟨err', q', (m'.fails_convertStep _ _ _).mpr h', he, hq⟩

inductive Corresponds (R : TypeName → TypeName → Prop) :
    Except Halt TypeName → Except Halt TypeName → Prop
  | ok {a b : TypeName} (h : R a b) : Corresponds R (.ok a) (.ok b)
  | error (halt : Halt) : Corresponds R (.error halt) (.error halt)

theorem outcome_corresponds (hm : m.Similar m' S U) (hR : Respects c c' R) (n : Nat) {t : T}
    {t' : T'} (ht : S t t') :
    Corresponds R ((m.convert c n t).outcome .start).1 ((m'.convert c' n t').outcome .start).1 ∧
      (((m.convert c n t).outcome .start).1 ≠ .error .exhausted →
        ((m.convert c n t).outcome .start).2.log =
          ((m'.convert c' n t').outcome .start).2.log) := by
  have forth := convert_simulates hm hR n
  have back := convert_simulates hm.symm hR.symm n
  by_cases hx : ((m.convert c n t).outcome .start).1 = .error .exhausted
  · have hx' : ((m'.convert c' n t').outcome .start).1 = .error .exhausted := by
      by_contra hne
      obtain ⟨a, q, h⟩ | ⟨err, q, h⟩ := outcome_cases hne
      · obtain ⟨b, r, h', -⟩ := back.1 ht .start h
        rw [h'.outcome_eq] at hx
        cases hx
      · obtain ⟨b, r, h', -⟩ := back.2 ht .start h
        rw [h'.outcome_eq] at hx
        cases hx
    rw [hx, hx']
    exact ⟨.error _, fun h => absurd rfl h⟩
  · obtain ⟨a, q, h⟩ | ⟨err, q, h⟩ := outcome_cases hx
    · obtain ⟨b, r, h', hab, hq⟩ := forth.1 ht .start h
      rw [h.outcome_eq, h'.outcome_eq]
      exact ⟨.ok hab, fun _ => hq.log⟩
    · obtain ⟨_, r, h', rfl, hq⟩ := forth.2 ht .start h
      rw [h.outcome_eq, h'.outcome_eq]
      exact ⟨.error _, fun _ => hq.log⟩

end JavaTypes.TypeModel
