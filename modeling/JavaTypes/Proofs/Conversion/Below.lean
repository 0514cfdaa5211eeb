import JavaTypes.Proofs.Conversion.Similarity
import JavaTypes.Proofs.Conversion.Step

namespace JavaTypes.TypeModel

variable {T E : Type} {m : TypeModel T E}

def Below (m : TypeModel T E) (t s s' : T) : Prop := s = s' ∧ Relation.TransGen m.Leads t s

theorem below_of_inside {t s : T} (h : m.Inside s t) : m.Below t s s := ⟨rfl, .single (.inside h)⟩

theorem below_of_bound {t b : T} (k : m.kind t = .typeVariable) (h : m.upperBound? t = some b) :
    m.Below t b b :=
  ⟨rfl, .single (.bound k h)⟩

theorem below_of_part {t b s : T} (k : m.kind t = .typeVariable) (h : m.upperBound? t = some b)
    (kb : m.kind b = .intersection) (hs : s ∈ m.parts b) : m.Below t s s :=
  ⟨rfl, .tail (.single (.bound k h)) (.inside (.part kb hs))⟩

section Transfer

variable {N : E → Except ConversionError ClassName → Prop} {convention : Convention}
  {L : Progress E → Progress E → Prop} {t : T} {p r q : Progress E}
  {R R' : T → Progress E → TypeName → Progress E → Prop}
  {F F' : T → Progress E → ConversionError → Progress E → Prop}

theorem each_transfer (hR : Simulates (m.Below t) L Eq R R') {ts : List T} {as : List TypeName}
    (ht : ∀ s ∈ ts, m.Below t s s) (hp : L p r) (h : Each R ts p as q) :
    ∃ q', Each R' ts r as q' ∧ L q q' := by
  obtain ⟨as', q', hs, has, hq⟩ := hR.each (List.forall₂_same.mpr ht) hp h
  rw [List.forall₂_eq_eq_eq] at has
  subst has
  exact ⟨q', hs, hq⟩

theorem halts_transfer (hR : Simulates (m.Below t) L Eq R R')
    (hF : Simulates (m.Below t) L Eq F F') {ts : List T} {err : ConversionError}
    (ht : ∀ s ∈ ts, m.Below t s s) (hp : L p r) (h : Halts R F ts p err q) :
    ∃ q', Halts R' F' ts r err q' ∧ L q q' := by
  obtain ⟨_, q', hs, rfl, hq⟩ := hR.halts hF (List.forall₂_same.mpr ht) hp h
  exact ⟨q', hs, hq⟩

theorem PartsFailure.transfer (hR : Simulates (m.Below t) L Eq R R')
    (hF : Simulates (m.Below t) L Eq F F') {b : T} {err : ConversionError}
    (hb : ∀ s ∈ m.parts b, m.Below t s s) (hp : L p r) (h : m.PartsFailure R F b p err q) :
    ∃ q', m.PartsFailure R' F' b r err q' ∧ L q q' := by
  cases h with
  | part h =>
    obtain ⟨q', hs, hq⟩ := halts_transfer hR hF hb hp h
    exact ⟨q', .part hs, hq⟩
  | tooFew h ha =>
    obtain ⟨q', hs, hq⟩ := each_transfer hR hb hp h
    exact ⟨q', .tooFew hs ha, hq⟩

theorem BoundsStep.transfer (hR : Simulates (m.Below t) L Eq R R') {as : List TypeName}
    (k : m.kind t = .typeVariable) (hp : L p r) (h : m.BoundsStep R N convention t p as q) :
    ∃ q', m.BoundsStep R' N convention t r as q' ∧ L q q' := by
  cases h with
  | object hb ho => exact ⟨r, .object hb ho, hp⟩
  | parts hb kb hs =>
    obtain ⟨q', hs', hq⟩ := each_transfer hR (fun s => below_of_part k hb kb) hp hs.1
    exact ⟨q', .parts hb kb ⟨hs', hs.2⟩, hq⟩
  | plain hb ho hs =>
    obtain ⟨_, q', hs', rfl, hq⟩ := hR (below_of_bound k hb) hp hs
    exact ⟨q', .plain hb ho hs', hq⟩

theorem BoundsFailure.transfer (hR : Simulates (m.Below t) L Eq R R')
    (hF : Simulates (m.Below t) L Eq F F') {x : String} {err : ConversionError}
    (k : m.kind t = .typeVariable) (hp : L p r) (h : m.BoundsFailure R F N x t p err q) :
    ∃ q', m.BoundsFailure R' F' N x t r err q' ∧ L q q' := by
  cases h with
  | noBound hb => exact ⟨r, .noBound hb, hp⟩
  | unnamed hb ho => exact ⟨r, .unnamed hb ho, hp⟩
  | parts hb kb hs =>
    obtain ⟨q', hs', hq⟩ := PartsFailure.transfer hR hF (fun s => below_of_part k hb kb) hp hs
    exact ⟨q', .parts hb kb hs', hq⟩
  | plain hb ho hs =>
    obtain ⟨_, q', hs', rfl, hq⟩ := hF (below_of_bound k hb) hp hs
    exact ⟨q', .plain hb ho hs', hq⟩

variable [DecidableEq E]

theorem Step.transfer (hR : Simulates (m.Below t) L Eq R R') {a : TypeName}
    (k : m.kind t = .typeVariable → m.element? t = none)
    (hp : L (p.met (m.kind t)) (r.met (m.kind t))) (h : m.Step R N convention t p a q) :
    ∃ q', m.Step R' N convention t r a q' ∧ L q q' := by
  cases h with
  | leaf hl => exact ⟨_, .leaf hl, hp⟩
  | array kt hc hs =>
    obtain ⟨_, q', hs', rfl, hq⟩ := hR (below_of_inside (.component kt hc)) hp hs
    exact ⟨q', .array kt hc hs', hq⟩
  | applied kt he hc ha hs =>
    obtain ⟨q', hs', hq⟩ := each_transfer hR (fun s hs => below_of_inside (.argument kt hs)) hp hs
    exact ⟨q', .applied kt he hc ha hs', hq⟩
  | parts kt hs =>
    obtain ⟨q', hs', hq⟩ := each_transfer hR (fun s hs => below_of_inside (.part kt hs)) hp hs.1
    exact ⟨q', .parts kt ⟨hs', hs.2⟩, hq⟩
  | known kt he | fresh kt he => cases (k kt).symm.trans he

theorem Failure.transfer (hR : Simulates (m.Below t) L Eq R R')
    (hF : Simulates (m.Below t) L Eq F F') {err : ConversionError}
    (k : m.kind t = .typeVariable → m.element? t = none)
    (hp : L (p.met (m.kind t)) (r.met (m.kind t))) (h : m.Failure R F N t p err q) :
    ∃ q', m.Failure R' F' N t r err q' ∧ L q q' := by
  cases h with
  | fault hf => exact ⟨_, .fault hf, hp⟩
  | array kt hc hs =>
    obtain ⟨_, q', hs', rfl, hq⟩ := hF (below_of_inside (.component kt hc)) hp hs
    exact ⟨q', .array kt hc hs', hq⟩
  | applied kt he hc ha hs =>
    obtain ⟨q', hs', hq⟩ :=
      halts_transfer hR hF (fun s hs => below_of_inside (.argument kt hs)) hp hs
    exact ⟨q', .applied kt he hc ha hs', hq⟩
  | parts kt hs =>
    obtain ⟨q', hs', hq⟩ :=
      PartsFailure.transfer hR hF (fun s hs => below_of_inside (.part kt hs)) hp hs
    exact ⟨q', .parts kt hs', hq⟩
  | fresh kt he => cases (k kt).symm.trans he

end Transfer

end JavaTypes.TypeModel
