import JavaTypes.Proofs.Conversion.Similarity

namespace JavaTypes.TypeModel

open Conversion

variable {T T' E E' : Type} {m : TypeModel T E}
  {m' : TypeModel T' E'} {S : T → T' → Prop} {U : E → E' → Prop}
  {R : TypeName → TypeName → Prop} {c c' : Convention}

section Step

variable {N : E → Except ConversionError ClassName → Prop}
  {N' : E' → Except ConversionError ClassName → Prop}

theorem Leaf.simulates (hm : m.Similar m' S U) (hR : Respects c c' R)
    (hN : Agrees U N N') {t : T} {t' : T'} (ht : S t t') {a : TypeName}
    (h : m.Leaf N t a) : ∃ a', m'.Leaf N' t' a' ∧ R a a' := by
  have hk := hm.kind ht
  cases h with
  | primitive k => exact ⟨_, .primitive (hk ▸ k), hR.primitive _⟩
  | void k => exact ⟨_, .void (hk ▸ k), hR.void⟩
  | null k => exact ⟨_, .null (hk ▸ k), hR.null⟩
  | named k he hc ha =>
    obtain ⟨e', he', heU⟩ := optionRel_some (hm.element ht) he
    have ha' : m'.arguments t' = [] := by
      have hargs := hm.arguments ht
      rw [ha] at hargs
      exact List.forall₂_nil_left_iff.mp hargs
    exact ⟨_, .named (hk ▸ k) he' (hN heU hc) ha', hR.named _⟩

theorem Fault.simulates (hm : m.Similar m' S U) (hN : Agrees U N N')
    {t : T} {t' : T'} (ht : S t t') {err : ConversionError} (h : m.Fault N t err) :
    m'.Fault N' t' err := by
  have hk := hm.kind ht
  cases h with
  | unsupported k =>
    rw [hk] at k ⊢
    exact .unsupported k
  | noComponent k hc => exact .noComponent (hk ▸ k) (optionRel_none (hm.component ht) hc)
  | noElement k he => exact .noElement (hk ▸ k) (optionRel_none (hm.element ht) he)
  | className k he hc =>
    obtain ⟨e', he', heU⟩ := optionRel_some (hm.element ht) he
    exact .className (hk ▸ k) he' (hN heU hc)
  | noVariable k he => exact .noVariable (hk ▸ k) (optionRel_none (hm.element ht) he)

theorem arguments_eq_nil_iff (hm : m.Similar m' S U) {t : T} {t' : T'} (ht : S t t') :
    m.arguments t = [] ↔ m'.arguments t' = [] := by
  have hl := (hm.arguments ht).length_eq
  rw [← List.length_eq_zero_iff, ← List.length_eq_zero_iff, hl]

theorem ObjectBound.simulates (hm : m.Similar m' S U)
    (hN : Agrees U N N') {b : T} {b' : T'} (hb : S b b')
    (h : m.ObjectBound N b) : m'.ObjectBound N' b' := by
  obtain ⟨k, ha, e, he, hc⟩ := h
  obtain ⟨e', he', heU⟩ := optionRel_some (hm.element hb) he
  exact ⟨hm.kind hb ▸ k, (arguments_eq_nil_iff hm hb).mp ha, e', he', hN heU hc⟩

theorem UnnamedBound.simulates (hm : m.Similar m' S U)
    (hN : Agrees U N N') {b : T} {b' : T'} (hb : S b b')
    {err : ConversionError} (h : m.UnnamedBound N b err) : m'.UnnamedBound N' b' err := by
  obtain ⟨k, ha, e, he, hc⟩ := h
  obtain ⟨e', he', heU⟩ := optionRel_some (hm.element hb) he
  exact ⟨hm.kind hb ▸ k, (arguments_eq_nil_iff hm hb).mp ha, e', he', hN heU hc⟩

theorem PlainBound.simulates (hm : m.Similar m' S U)
    (hN : Agrees U N N') {b : T} {b' : T'} (hb : S b b')
    (h : m.PlainBound N b) : m'.PlainBound N' b' := by
  refine ⟨hm.kind hb ▸ h.1, fun k ha e' he' => ?_⟩
  obtain ⟨e, he, heU⟩ := optionRel_some (optionRel_flip (hm.element hb)) he'
  obtain ⟨x, hx, hne⟩ := h.2 (hm.kind hb ▸ k) ((arguments_eq_nil_iff hm hb).mpr ha) e he
  exact ⟨x, hN heU hx, hne⟩

variable [DecidableEq E] [DecidableEq E']
  {Y : T → Progress E → TypeName → Progress E → Prop}
  {Z : T' → Progress E' → TypeName → Progress E' → Prop}
  {F : T → Progress E → ConversionError → Progress E → Prop}
  {G : T' → Progress E' → ConversionError → Progress E' → Prop}

theorem PartsStep.simulates (hm : m.Similar m' S U) (hY : Simulates S (Linked m m' U R) R Y Z) :
    Simulates S (Linked m m' U R) (List.Forall₂ R) (m.PartsStep Y) (m'.PartsStep Z) := by
  rintro t t' p p' as q ht hp ⟨hs, ha⟩
  obtain ⟨as', q', hs', has, hq⟩ := hY.each (hm.parts ht) hp hs
  exact ⟨as', q', ⟨hs', has.length_eq ▸ ha⟩, has, hq⟩

theorem PartsFailure.simulates (hm : m.Similar m' S U)
    (hY : Simulates S (Linked m m' U R) R Y Z) (hF : Simulates S (Linked m m' U R) Eq F G) :
    Simulates S (Linked m m' U R) Eq (m.PartsFailure Y F) (m'.PartsFailure Z G) := by
  intro t t' p p' err q ht hp hs
  cases hs with
  | part hs =>
    obtain ⟨_, q', hs', rfl, hq⟩ := hY.halts hF (hm.parts ht) hp hs
    exact ⟨err, q', .part hs', rfl, hq⟩
  | tooFew hs ha =>
    obtain ⟨as', q', hs', has, hq⟩ := hY.each (hm.parts ht) hp hs
    rw [has.length_eq] at ha ⊢
    exact ⟨_, q', .tooFew hs' ha, rfl, hq⟩

theorem BoundsStep.simulates (hm : m.Similar m' S U) (hR : Respects c c' R)
    (hN : Agrees U N N') (hY : Simulates S (Linked m m' U R) R Y Z)
    (hYi : ∀ {t p as q}, Y t p (.intersection as) q → m.kind t = .intersection)
    (hZi : ∀ {t p as q}, Z t p (.intersection as) q → m'.kind t = .intersection) :
    Simulates S (Linked m m' U R)
      (fun as bs => ∀ x, R (.typeVariable x as) (.typeVariable x bs))
      (m.BoundsStep Y N c) (m'.BoundsStep Z N' c') := by
  intro t t' p p' as q ht hp hs
  cases hs with
  | object h hb =>
    obtain ⟨b', h', hbb⟩ := optionRel_some (hm.upperBound ht) h
    exact ⟨[], p', .object h' (hb.simulates hm hN hbb), hR.unbounded, hp⟩
  | parts h k hs =>
    obtain ⟨b', h', hbb⟩ := optionRel_some (hm.upperBound ht) h
    obtain ⟨as', q', hs', has, hq⟩ := PartsStep.simulates hm hY hbb hp hs
    exact ⟨_, q', .parts h' (hm.kind hbb ▸ k) hs', fun x => hR.bounds x has, hq⟩
  | plain h hb hs =>
    obtain ⟨b', h', hbb⟩ := optionRel_some (hm.upperBound ht) h
    obtain ⟨a', q', hs', ha, hq⟩ := hY hbb hp hs
    have hb' := hb.simulates hm hN hbb
    refine ⟨[a'], q', .plain h' hb' hs', fun x => hR.bounded x ha ?_ ?_, hq⟩
    · rintro ps rfl
      exact hb.1 (hYi hs)
    · rintro ps rfl
      exact hb'.1 (hZi hs')

theorem BoundsFailure.simulates (hm : m.Similar m' S U)
    (hN : Agrees U N N') (hY : Simulates S (Linked m m' U R) R Y Z)
    (hF : Simulates S (Linked m m' U R) Eq F G) (x : String) :
    Simulates S (Linked m m' U R) Eq (m.BoundsFailure Y F N x) (m'.BoundsFailure Z G N' x) := by
  intro t t' p p' err q ht hp hs
  cases hs with
  | noBound h => exact ⟨_, p', .noBound (optionRel_none (hm.upperBound ht) h), rfl, hp⟩
  | unnamed h hb =>
    obtain ⟨b', h', hbb⟩ := optionRel_some (hm.upperBound ht) h
    exact ⟨err, p', .unnamed h' (hb.simulates hm hN hbb), rfl, hp⟩
  | parts h k hs =>
    obtain ⟨b', h', hbb⟩ := optionRel_some (hm.upperBound ht) h
    obtain ⟨_, q', hs', rfl, hq⟩ := PartsFailure.simulates hm hY hF hbb hp hs
    exact ⟨err, q', .parts h' (hm.kind hbb ▸ k) hs', rfl, hq⟩
  | plain h hb hs =>
    obtain ⟨b', h', hbb⟩ := optionRel_some (hm.upperBound ht) h
    obtain ⟨_, q', hs', rfl, hq⟩ := hF hbb hp hs
    exact ⟨err, q', .plain h' (hb.simulates hm hN hbb) hs', rfl, hq⟩

end Step

end JavaTypes.TypeModel
