import Mathlib.Data.List.Forall2
import JavaTypes.Proofs.Conversion.Run

/-!
Two models of the same shape, and what it means for a step in the one to be matched by a step in the
other. Names are compared by a relation of which only a few closure properties are used, so that the
two sides may follow different conventions.
-/

namespace JavaTypes

/-- Every run of `Y` is matched by a run of `Z` that starts and ends in a related state. -/
def Simulates {α α' β β' σ σ' : Type} (S : α → α' → Prop) (L : σ → σ' → Prop)
    (R : β → β' → Prop) (Y : α → σ → β → σ → Prop) (Z : α' → σ' → β' → σ' → Prop) : Prop :=
  ∀ ⦃x x' p p' a q⦄, S x x' → L p p' → Y x p a q → ∃ a' q', Z x' p' a' q' ∧ R a a' ∧ L q q'

section Lists

variable {α α' β β' ε ε' σ σ' : Type} {S : α → α' → Prop} {L : σ → σ' → Prop} {R : β → β' → Prop}
  {Q : ε → ε' → Prop} {Y : α → σ → β → σ → Prop} {Z : α' → σ' → β' → σ' → Prop}
  {F : α → σ → ε → σ → Prop} {G : α' → σ' → ε' → σ' → Prop}

theorem Simulates.each (h : Simulates S L R Y Z) :
    Simulates (List.Forall₂ S) L (List.Forall₂ R) (Each Y) (Each Z) := by
  intro xs xs' p p' as q hx hp hs
  induction hs generalizing xs' p' with
  | nil p =>
    cases hx
    exact ⟨[], p', .nil p', .nil, hp⟩
  | cons hy _ ih =>
    cases hx with
    | cons hx hxs =>
      obtain ⟨a', q', hz, ha, hq⟩ := h hx hp hy
      obtain ⟨as', r', hzs, has, hr⟩ := ih hxs hq
      exact ⟨a' :: as', r', .cons hz hzs, .cons ha has, hr⟩

theorem Simulates.halts (h : Simulates S L R Y Z) (hf : Simulates S L Q F G) :
    Simulates (List.Forall₂ S) L Q (Halts Y F) (Halts Z G) := by
  intro xs xs' p p' e q hx hp hs
  induction hs generalizing xs' p' with
  | here hy =>
    cases hx with
    | cons hx _ =>
      obtain ⟨e', q', hz, he, hq⟩ := hf hx hp hy
      exact ⟨e', q', .here hz, he, hq⟩
  | later hy _ ih =>
    cases hx with
    | cons hx hxs =>
      obtain ⟨a', q', hz, -, hq⟩ := h hx hp hy
      obtain ⟨e', r', hzs, he, hr⟩ := ih hxs hq
      exact ⟨e', r', .later hz hzs, he, hr⟩

end Lists

namespace TypeModel

variable {T T' E E' : Type}

structure Similar (m : TypeModel T E) (m' : TypeModel T' E') (S : T → T' → Prop)
    (U : E → E' → Prop) : Prop where
  kind {t t'} : S t t' → m.kind t = m'.kind t'
  component {t t'} : S t t' → Option.Rel S (m.component? t) (m'.component? t')
  element {t t'} : S t t' → Option.Rel U (m.element? t) (m'.element? t')
  arguments {t t'} : S t t' → List.Forall₂ S (m.arguments t) (m'.arguments t')
  upperBound {t t'} : S t t' → Option.Rel S (m.upperBound? t) (m'.upperBound? t')
  parts {t t'} : S t t' → List.Forall₂ S (m.parts t) (m'.parts t')
  elementKind {e e'} : U e e' → m.elementKind e = m'.elementKind e'
  elementName {e e'} : U e e' → m.elementName e = m'.elementName e'
  enclosing {e e'} : U e e' → Option.Rel U (m.enclosing? e) (m'.enclosing? e')
  one_to_one {e e' f f'} : U e e' → U f f' → m.Declares e → m.Declares f → m'.Declares e' →
    m'.Declares f' → (e = f ↔ e' = f')

theorem optionRel_eq {α : Type} (o : Option α) : Option.Rel Eq o o := by
  cases o with
  | none => exact .none
  | some a => exact .some rfl

theorem optionRel_flip {α β : Type} {r : α → β → Prop} {a : Option α} {b : Option β}
    (h : Option.Rel r a b) : Option.Rel (flip r) b a := by
  cases h with
  | none => exact .none
  | some h => exact .some h

theorem optionRel_some {α β : Type} {r : α → β → Prop} {o : Option α} {o' : Option β} {a : α}
    (h : Option.Rel r o o') (ho : o = some a) : ∃ b, o' = some b ∧ r a b := by
  subst ho
  cases h with
  | some h => exact ⟨_, rfl, h⟩

theorem optionRel_none {α β : Type} {r : α → β → Prop} {o : Option α} {o' : Option β}
    (h : Option.Rel r o o') (ho : o = none) : o' = none := by
  subst ho
  cases h
  rfl

def Agrees (U : E → E' → Prop) (N : E → Except ConversionError ClassName → Prop)
    (N' : E' → Except ConversionError ClassName → Prop) : Prop :=
  ∀ ⦃e e' r⦄, U e e' → N e r → N' e' r

namespace Similar

variable {m : TypeModel T E} {m' : TypeModel T' E'} {S : T → T' → Prop} {U : E → E' → Prop}

theorem of_convention (m : TypeModel T E) (c c' : Convention) :
    ({ m with convention := c }).Similar { m with convention := c' } Eq Eq where
  kind h := by rw [h]
  component h := h ▸ optionRel_eq _
  element h := h ▸ optionRel_eq _
  arguments h := h ▸ List.forall₂_eq_eq_eq ▸ rfl
  upperBound h := h ▸ optionRel_eq _
  parts h := h ▸ List.forall₂_eq_eq_eq ▸ rfl
  elementKind h := by rw [h]
  elementName h := by rw [h]
  enclosing h := h ▸ optionRel_eq _
  one_to_one he hf _ _ _ _ := by rw [he, hf]

theorem symm (h : m.Similar m' S U) : m'.Similar m (flip S) (flip U) where
  kind ht := (h.kind ht).symm
  component ht := optionRel_flip (h.component ht)
  element ht := optionRel_flip (h.element ht)
  arguments ht := (h.arguments ht).flip
  upperBound ht := optionRel_flip (h.upperBound ht)
  parts ht := (h.parts ht).flip
  elementKind he := (h.elementKind he).symm
  elementName he := (h.elementName he).symm
  enclosing he := optionRel_flip (h.enclosing he)
  one_to_one he hf hde hdf hde' hdf' := (h.one_to_one he hf hde' hdf' hde hdf).symm

theorem surroundings_eq (h : m.Similar m' S U) (own : String) (n : Nat) {e? : Option E}
    {e'? : Option E'} (he : Option.Rel U e? e'?) :
    m.surroundings own n e? = m'.surroundings own n e'? := by
  induction n generalizing e? e'? with
  | zero => rfl
  | succ n ih =>
    cases he with
    | none => rfl
    | some he =>
      rw [surroundings, surroundings, h.elementKind he, h.elementName he, ih (h.enclosing he)]

theorem agrees (h : m.Similar m' S U) (n : Nat) : Agrees U (m.NameAt n) (m'.NameAt n) := by
  intro e e' r he hr
  unfold NameAt at hr ⊢
  rw [className_eq] at hr ⊢
  rw [← hr, h.elementName he, h.surroundings_eq _ n (h.enclosing he)]

end Similar

structure Respects (c c' : Convention) (R : TypeName → TypeName → Prop) : Prop where
  primitive (p : Primitive) : R (.primitive p) (.primitive p)
  void : R .void .void
  null : R .null .null
  named (x : ClassName) : R (.named x) (.named x)
  array {a b : TypeName} : R a b → R (.array a) (.array b)
  parameterized {as bs : List TypeName} (x : ClassName) : List.Forall₂ R as bs →
    R (.parameterized x as) (.parameterized x bs)
  intersection {as bs : List TypeName} : List.Forall₂ R as bs →
    R (.intersection as) (.intersection bs)
  unbounded (x : String) : R (.typeVariable x []) (.typeVariable x [])
  bounded {a b : TypeName} (x : String) : R a b → (∀ ps, a ≠ .intersection ps) →
    (∀ ps, b ≠ .intersection ps) → R (.typeVariable x [a]) (.typeVariable x [b])
  bounds {as bs : List TypeName} (x : String) : List.Forall₂ R as bs →
    R (.typeVariable x (c.bounds as)) (.typeVariable x (c'.bounds bs))

theorem Respects.symm {c c' : Convention} {R : TypeName → TypeName → Prop} (h : Respects c c' R) :
    Respects c' c (flip R) where
  primitive := h.primitive
  void := h.void
  null := h.null
  named := h.named
  array ha := h.array ha
  parameterized x ha := h.parameterized x ha.flip
  intersection ha := h.intersection ha.flip
  unbounded := h.unbounded
  bounded x ha hb hc := h.bounded x ha hc hb
  bounds x ha := h.bounds x ha.flip

structure Linked [DecidableEq E] [DecidableEq E'] (m : TypeModel T E) (m' : TypeModel T' E')
    (U : E → E' → Prop) (R : TypeName → TypeName → Prop) (p : Progress E) (p' : Progress E') :
    Prop where
  log : p.log = p'.log
  memo {e e'} : U e e' → m.Declares e → m'.Declares e' →
    Option.Rel (fun v w => v.name = w.name ∧ R v.typeName w.typeName)
      (p.memo.get? e) (p'.memo.get? e')

namespace Linked

variable [DecidableEq E] [DecidableEq E'] {m : TypeModel T E} {m' : TypeModel T' E'}
  {S : T → T' → Prop} {U : E → E' → Prop} {R : TypeName → TypeName → Prop} {p : Progress E}
  {p' : Progress E'}

theorem start : Linked m m' U R .start .start := ⟨rfl, fun _ _ _ => .none⟩

theorem emit (h : Linked m m' U R p p') (event : Event) :
    Linked m m' U R (p.emit event) (p'.emit event) :=
  ⟨by rw [Progress.emit_log, Progress.emit_log, h.log], h.memo⟩

theorem met (h : Linked m m' U R p p') {k k' : TypeKind} (hk : k = k') :
    Linked m m' U R (p.met k) (p'.met k') :=
  hk ▸ h.emit (.converting k)

theorem remember (hm : m.Similar m' S U) (h : Linked m m' U R p p') {e : E} {e' : E'}
    (he : U e e') (hd : m.Declares e) (hd' : m'.Declares e') {v w : TypeVariable}
    (hn : v.name = w.name) (hv : R v.typeName w.typeName) :
    Linked m m' U R (p.remember e v) (p'.remember e' w) where
  log := h.log
  memo {f f'} hf hdf hdf' := by
    rw [Progress.remember_get?, Progress.remember_get?]
    by_cases hef : e = f
    · rw [if_pos hef, if_pos ((hm.one_to_one he hf hd hdf hd' hdf').mp hef)]
      exact .some ⟨hn, hv⟩
    · rw [if_neg hef, if_neg (mt (hm.one_to_one he hf hd hdf hd' hdf').mpr hef)]
      exact h.memo hf hdf hdf'

theorem forget (hm : m.Similar m' S U) (h : Linked m m' U R p p') {e : E} {e' : E'}
    (he : U e e') (hd : m.Declares e) (hd' : m'.Declares e') :
    Linked m m' U R (p.forget e) (p'.forget e') where
  log := h.log
  memo {f f'} hf hdf hdf' := by
    rw [Progress.forget_get?, Progress.forget_get?]
    by_cases hef : e = f
    · rw [if_pos hef, if_pos ((hm.one_to_one he hf hd hdf hd' hdf').mp hef)]
      exact .none
    · rw [if_neg hef, if_neg (mt (hm.one_to_one he hf hd hdf hd' hdf').mpr hef)]
      exact h.memo hf hdf hdf'

end Linked

end TypeModel

end JavaTypes
