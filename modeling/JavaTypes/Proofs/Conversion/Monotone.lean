import JavaTypes.Proofs.Conversion.Naming
import JavaTypes.Proofs.Conversion.StepOutcome

namespace JavaTypes

section

variable {α β ε σ : Type} {R R' : α → σ → β → σ → Prop} {F F' : α → σ → ε → σ → Prop}

theorem Each.mono {xs : List α} {as : List β} {p q : σ} (h : Each R xs p as q)
    (hR : ∀ {x p a q}, R x p a q → R' x p a q) : Each R' xs p as q := by
  induction h with
  | nil p => exact .nil p
  | cons h _ ih => exact .cons (hR h) ih

theorem Each.length_eq {xs : List α} {as : List β} {p q : σ} (h : Each R xs p as q) :
    as.length = xs.length := by
  induction h with
  | nil => rfl
  | cons _ _ ih => rw [List.length_cons, List.length_cons, ih]

theorem Each.concat {xs : List α} {as : List β} {p q r : σ} {x : α} {a : β} (h : Each R xs p as q)
    (hx : R x q a r) : Each R (xs ++ [x]) p (as ++ [a]) r := by
  induction h with
  | nil p => exact .cons hx (.nil r)
  | cons h _ ih => exact .cons h (ih hx)

theorem Each.of_append {xs ys : List α} {as : List β} {p q : σ} (h : Each R (xs ++ ys) p as q) :
    ∃ bs cs r, Each R xs p bs r ∧ Each R ys r cs q := by
  induction xs generalizing p as with
  | nil => exact ⟨[], as, p, .nil p, h⟩
  | cons x xs ih =>
    cases h with
    | @cons _ _ a _ _ _ _ hx hs =>
      obtain ⟨bs, cs, r, hb, hc⟩ := ih hs
      exact ⟨a :: bs, cs, r, .cons hx hb, hc⟩

theorem Each.unique {xs : List α} {as bs : List β} {p q r : σ} (h : Each R xs p as q)
    (h' : Each R xs p bs r) (hR : ∀ {x p a b q r}, R x p a q → R x p b r → q = r) : q = r := by
  induction h generalizing bs with
  | nil =>
    cases h'
    rfl
  | cons hx _ ih =>
    cases h' with
    | cons hx' hs' =>
      cases hR hx hx'
      exact ih hs'

theorem Each.relates {Q : σ → σ → Prop} {xs : List α} {as : List β} {p q : σ}
    (h : Each R xs p as q) (refl : ∀ p, Q p p) (trans : ∀ {p q r}, Q p q → Q q r → Q p r)
    (hR : ∀ {x p a q}, R x p a q → Q p q) : Q p q := by
  induction h with
  | nil p => exact refl p
  | cons hx _ ih => exact trans (hR hx) ih

theorem Halts.mono {xs : List α} {e : ε} {p q : σ} (h : Halts R F xs p e q)
    (hR : ∀ {x p a q}, R x p a q → R' x p a q) (hF : ∀ {x p e q}, F x p e q → F' x p e q) :
    Halts R' F' xs p e q := by
  induction h with
  | here h => exact .here (hF h)
  | later h _ ih => exact .later (hR h) ih

end

namespace TypeModel

variable {T E : Type} {m : TypeModel T E}

section

variable {N N' : E → Except ConversionError ClassName → Prop}
  {R R' : T → Progress E → TypeName → Progress E → Prop}
  {F F' : T → Progress E → ConversionError → Progress E → Prop}
  {convention : Convention}

theorem Leaf.mono {t : T} {a : TypeName} (h : m.Leaf N t a) (hN : ∀ {e r}, N e r → N' e r) :
    m.Leaf N' t a := by
  cases h with
  | primitive k => exact .primitive k
  | void k => exact .void k
  | null k => exact .null k
  | named k h hc ha => exact .named k h (hN hc) ha

theorem Fault.mono {t : T} {err : ConversionError} (h : m.Fault N t err)
    (hN : ∀ {e r}, N e r → N' e r) : m.Fault N' t err := by
  cases h with
  | unsupported k => exact .unsupported k
  | noComponent k h => exact .noComponent k h
  | noElement k h => exact .noElement k h
  | className k h hc => exact .className k h (hN hc)
  | noVariable k h => exact .noVariable k h

theorem ObjectBound.mono {b : T} (h : m.ObjectBound N b) (hN : ∀ {e r}, N e r → N' e r) :
    m.ObjectBound N' b := by
  obtain ⟨k, ha, e, he, hc⟩ := h
  exact ⟨k, ha, e, he, hN hc⟩

theorem PlainBound.mono {b : T} (h : m.PlainBound N b) (hN : ∀ {e r}, N e r → N' e r) :
    m.PlainBound N' b := by
  refine ⟨h.1, fun k ha e he => ?_⟩
  obtain ⟨c, hc, hne⟩ := h.2 k ha e he
  exact ⟨c, hN hc, hne⟩

theorem UnnamedBound.mono {b : T} {err : ConversionError} (h : m.UnnamedBound N b err)
    (hN : ∀ {e r}, N e r → N' e r) : m.UnnamedBound N' b err := by
  obtain ⟨k, ha, e, he, hc⟩ := h
  exact ⟨k, ha, e, he, hN hc⟩

theorem PartsStep.mono {t : T} {as : List TypeName} {p q : Progress E}
    (h : m.PartsStep R t p as q) (hR : ∀ {x p a q}, R x p a q → R' x p a q) :
    m.PartsStep R' t p as q :=
  ⟨h.1.mono hR, h.2⟩

theorem PartsFailure.mono {t : T} {err : ConversionError} {p q : Progress E}
    (h : m.PartsFailure R F t p err q) (hR : ∀ {x p a q}, R x p a q → R' x p a q)
    (hF : ∀ {x p e q}, F x p e q → F' x p e q) : m.PartsFailure R' F' t p err q := by
  cases h with
  | part h => exact .part (h.mono hR hF)
  | tooFew h ha => exact .tooFew (h.mono hR) ha

theorem BoundsStep.mono {t : T} {as : List TypeName} {p q : Progress E}
    (h : m.BoundsStep R N convention t p as q) (hR : ∀ {x p a q}, R x p a q → R' x p a q)
    (hN : ∀ {e r}, N e r → N' e r) : m.BoundsStep R' N' convention t p as q := by
  cases h with
  | object h hb => exact .object h (hb.mono hN)
  | parts h k hs => exact .parts h k (hs.mono hR)
  | plain h hb hs => exact .plain h (hb.mono hN) (hR hs)

theorem BoundsStep.relates {Q : Progress E → Progress E → Prop} {t : T} {as : List TypeName}
    {p q : Progress E} (h : m.BoundsStep R N convention t p as q) (refl : ∀ p, Q p p)
    (trans : ∀ {p q r}, Q p q → Q q r → Q p r) (hR : ∀ {x p a q}, R x p a q → Q p q) : Q p q := by
  cases h with
  | object => exact refl p
  | parts _ _ hs => exact hs.1.relates refl trans hR
  | plain _ _ hs => exact hR hs

theorem BoundsFailure.mono {name : String} {t : T} {err : ConversionError} {p q : Progress E}
    (h : m.BoundsFailure R F N name t p err q) (hR : ∀ {x p a q}, R x p a q → R' x p a q)
    (hF : ∀ {x p e q}, F x p e q → F' x p e q) (hN : ∀ {e r}, N e r → N' e r) :
    m.BoundsFailure R' F' N' name t p err q := by
  cases h with
  | noBound h => exact .noBound h
  | unnamed h hb => exact .unnamed h (hb.mono hN)
  | parts h k hs => exact .parts h k (hs.mono hR hF)
  | plain h hb hs => exact .plain h (hb.mono hN) (hF hs)

variable [DecidableEq E]

theorem Step.mono {t : T} {a : TypeName} {p q : Progress E} (h : m.Step R N convention t p a q)
    (hR : ∀ {x p a q}, R x p a q → R' x p a q) (hN : ∀ {e r}, N e r → N' e r) :
    m.Step R' N' convention t p a q := by
  cases h with
  | leaf h => exact .leaf (h.mono hN)
  | array k h hs => exact .array k h (hR hs)
  | applied k h hc ha hs => exact .applied k h (hN hc) ha (hs.mono hR)
  | parts k hs => exact .parts k (hs.mono hR)
  | known k h hv => exact .known k h hv
  | fresh k h hv hs => exact .fresh k h hv (hs.mono hR hN)

theorem Failure.mono {t : T} {err : ConversionError} {p q : Progress E}
    (h : m.Failure R F N t p err q) (hR : ∀ {x p a q}, R x p a q → R' x p a q)
    (hF : ∀ {x p e q}, F x p e q → F' x p e q) (hN : ∀ {e r}, N e r → N' e r) :
    m.Failure R' F' N' t p err q := by
  cases h with
  | fault h => exact .fault (h.mono hN)
  | array k h hs => exact .array k h (hF hs)
  | applied k h hc ha hs => exact .applied k h (hN hc) ha (hs.mono hR hF)
  | parts k hs => exact .parts k (hs.mono hR hF)
  | fresh k h hv hs => exact .fresh k h hv (hs.mono hR hF hN)

end

section

variable [DecidableEq E] {convention : Convention} {n k : Nat} {t : T} {p q : Progress E}

theorem convert_yields_or_fails_succ :
    (∀ {t a} {p q : Progress E}, (m.convert convention n t).Yields p a q →
      (m.convert convention (n + 1) t).Yields p a q) ∧
    (∀ {t err} {p q : Progress E}, (m.convert convention n t).Fails p err q →
      (m.convert convention (n + 1) t).Fails p err q) := by
  induction n with
  | zero =>
    exact ⟨fun h => absurd h Conversion.yields_throw,
      fun h => by cases (Conversion.fails_throw.mp h).1⟩
  | succ n ih =>
    refine ⟨fun h => ?_, fun h => ?_⟩
    · exact (m.yields_convertStep _ _ _).mpr
        (((m.yields_convertStep _ _ _).mp h).mono ih.1 NameAt.succ)
    · exact (m.fails_convertStep _ _ _).mpr
        (((m.fails_convertStep _ _ _).mp h).mono ih.1 ih.2 NameAt.succ)

theorem convert_yields_mono {a : TypeName} (h : (m.convert convention n t).Yields p a q)
    (hk : n ≤ k) : (m.convert convention k t).Yields p a q := by
  induction hk with
  | refl => exact h
  | step _ ih => exact convert_yields_or_fails_succ.1 ih

theorem convert_fails_mono {err : ConversionError}
    (h : (m.convert convention n t).Fails p err q) (hk : n ≤ k) :
    (m.convert convention k t).Fails p err q := by
  induction hk with
  | refl => exact h
  | step _ ih => exact convert_yields_or_fails_succ.2 ih

end

end TypeModel

end JavaTypes
