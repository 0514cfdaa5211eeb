import JavaTypes.Proofs.Conversion.Calls
import JavaTypes.Proofs.Conversion.Tables
import JavaTypes.Proofs.Conversion.WellFormed
import JavaTypes.TypeName.Bounds

/-!
What a type is written as depends on the type alone. Without the bounds of its variables it has one
name, whatever the memo holds when it is converted, and the bounds that are settled for a variable
are always written the same.
-/

namespace JavaTypes.TypeModel

section

variable {T E : Type}

/-- The name of a type without the bounds of its variables. -/
inductive Outline (m : TypeModel T E) : T → TypeName → Prop
  | leaf {t a} (h : m.Leaf m.HasName t a) : Outline m t a
  | array {t s a} (k : m.kind t = .array) (h : m.component? t = some s) (hs : Outline m s a) :
      Outline m t (.array a)
  | applied {t e c as} (k : m.kind t = .declared) (h : m.element? t = some e)
      (hc : m.HasName e (.ok c)) (ha : m.arguments t ≠ [])
      (hs : List.Forall₂ (Outline m) (m.arguments t) as) : Outline m t (.parameterized c as)
  | parts {t as} (k : m.kind t = .intersection)
      (hs : List.Forall₂ (Outline m) (m.parts t) as) : Outline m t (.intersection as)
  | typeVariable {t e} (k : m.kind t = .typeVariable) (h : m.element? t = some e) :
      Outline m t (.typeVariable (m.elementName e) [])

variable {m : TypeModel T E} {t : T}

theorem Leaf.unique {a b : TypeName} (h : m.Leaf m.HasName t a) (h' : m.Leaf m.HasName t b) :
    a = b := by
  cases h with
  | named k he hc =>
    cases h' with
    | named _ he' hc' =>
      cases he.symm.trans he'
      cases hc.unique hc'
      rfl
    | _ k' => cases k.symm.trans k'
  | _ k =>
    cases h' with
    | _ k' => cases k.symm.trans k' <;> rfl

theorem unique_of_forall₂ {ts : List T} {as bs : List TypeName}
    (h : List.Forall₂ m.Outline ts as) (h' : List.Forall₂ m.Outline ts bs)
    (ih : ∀ a ∈ as, ∀ {t b}, m.Outline t a → m.Outline t b → a = b) : as = bs := by
  induction h generalizing bs with
  | nil => exact (List.forall₂_nil_left_iff.mp h').symm
  | cons ha _ ihs =>
    cases h' with
    | cons hb hbs =>
      rw [ih _ List.mem_cons_self ha hb, ihs hbs fun a ha => ih a (List.mem_cons_of_mem _ ha)]

theorem Outline.unique {a b : TypeName} (h : m.Outline t a) (h' : m.Outline t b) : a = b := by
  induction a using TypeName.children_induct generalizing t b with
  | step a ih =>
    cases h with
    | leaf hl =>
      cases h' with
      | leaf hl' => exact hl.unique hl'
      | _ => cases hl <;> simp_all
    | array k hc hs =>
      cases h' with
      | array _ hc' hs' =>
        cases hc.symm.trans hc'
        rw [ih _ List.mem_cons_self hs hs']
      | leaf hl => cases hl <;> simp_all
      | _ => simp_all
    | applied k he hc ha hs =>
      cases h' with
      | applied _ he' hc' _ hs' =>
        cases he.symm.trans he'
        cases hc.unique hc'
        rw [unique_of_forall₂ hs hs' ih]
      | leaf hl => cases hl <;> simp_all
      | _ => simp_all
    | parts k hs =>
      cases h' with
      | parts _ hs' => rw [unique_of_forall₂ hs hs' ih]
      | leaf hl => cases hl <;> simp_all
      | _ => simp_all
    | typeVariable k he =>
      cases h' with
      | typeVariable _ he' =>
        cases he.symm.trans he'
        rfl
      | leaf hl => cases hl <;> simp_all
      | _ => simp_all

inductive BoundsOutline (m : TypeModel T E) (b : T) : List TypeName → Prop
  | object (ho : m.IsObject b) : BoundsOutline m b []
  | parts {as} (k : m.kind b = .intersection) (hs : List.Forall₂ m.Outline (m.parts b) as) :
      BoundsOutline m b as
  | plain {a} (ho : m.PlainBound m.HasName b) (hs : m.Outline b a) : BoundsOutline m b [a]

theorem BoundsOutline.unique {b : T} {as bs : List TypeName} (h : m.BoundsOutline b as)
    (h' : m.BoundsOutline b bs) : as = bs := by
  cases h with
  | object ho =>
    cases h' with
    | object => rfl
    | parts k => cases ho.1.symm.trans k
    | plain hp => exact absurd ho hp.not_isObject
  | parts k hs =>
    cases h' with
    | object ho => cases ho.1.symm.trans k
    | parts _ hs' => exact unique_of_forall₂ hs hs' fun _ _ => Outline.unique
    | plain hp => exact absurd k hp.1
  | plain hp hs =>
    cases h' with
    | object ho => exact absurd ho hp.not_isObject
    | parts k => exact absurd k hp.1
    | plain _ hs' => rw [hs.unique hs']

end

section

variable {T E : Type} {m : TypeModel T E} {convention : Convention} {t : T}

theorem Leaf.withoutBounds_eq {a : TypeName} (h : m.Leaf m.HasName t a) : a.withoutBounds = a := by
  cases h <;> rfl

theorem outline_of_forall₂ {ts : List T} {as : List TypeName}
    (h : List.Forall₂ (fun t a => m.Outline t a.withoutBounds) ts as) :
    List.Forall₂ m.Outline ts (as.map TypeName.withoutBounds) :=
  List.forall₂_map_right_iff.mpr h

theorem outline_invariant :
    m.Invariant convention (fun t a => m.Outline t a.withoutBounds)
      fun e v => v.name = m.elementName e where
  leaf h := h.withoutBounds_eq.symm ▸ .leaf h
  array k hc h := .array k hc h
  applied k he hc ha h := by
    rw [TypeName.withoutBounds, TypeName.withoutBoundsAll_eq_map]
    exact .applied k he hc ha (outline_of_forall₂ h)
  parts k h _ := by
    rw [TypeName.withoutBounds, TypeName.withoutBoundsAll_eq_map]
    exact .parts k (outline_of_forall₂ h)
  known k he hv := by
    rw [TypeVariable.typeName, TypeName.withoutBounds, hv]
    exact .typeVariable k he
  placeholder _ _ := rfl
  meet _ _ _ _ _ _ := rfl
  plain _ _ _ _ _ := rfl

theorem declaration_bounds (convention : Convention) (x : String) {as : List TypeName}
    (h : as ≠ []) : TypeVariable.declaration ⟨x, convention.bounds as⟩ =
      TypeVariable.declaration ⟨x, as⟩ := by
  cases convention with
  | flatten => rfl
  | wrap => simp [Convention.bounds, TypeVariable.declaration, TypeVariable.isUnbounded, h,
      TypeName.render]

theorem declaration_withoutBounds (x : String) (as : List TypeName) :
    TypeVariable.declaration ⟨x, as.map TypeName.withoutBounds⟩ =
      TypeVariable.declaration ⟨x, as⟩ := by
  have hr : as.map (TypeName.render ∘ TypeName.withoutBounds) = as.map TypeName.render :=
    List.map_congr_left fun a _ => a.render_withoutBounds
  simp [TypeVariable.declaration, TypeVariable.isUnbounded, hr]

variable [DecidableEq E]

theorem Succeeds.outline {a : TypeName} {p q : Progress E}
    (h : m.Succeeds convention t p a q) (hp : p.All fun e v => v.name = m.elementName e) :
    m.Outline t a.withoutBounds :=
  (outline_invariant.holds h hp).1

theorem BoundsStep.outline {b : T} {as : List TypeName} {p q : Progress E}
    (hb : m.upperBound? t = some b)
    (h : m.BoundsStep (m.Succeeds convention) m.HasName convention t p as q)
    (hp : p.All fun e v => v.name = m.elementName e) :
    ∃ bs, m.BoundsOutline b bs ∧
      ∀ x, TypeVariable.declaration ⟨x, as⟩ = TypeVariable.declaration ⟨x, bs⟩ := by
  cases h with
  | object hb' ho =>
    cases hb.symm.trans hb'
    exact ⟨[], .object ho, fun x => rfl⟩
  | @parts _ _ as _ hb' k hs =>
    cases hb.symm.trans hb'
    have has := (hs.1.all (fun _ _ _ _ h => outline_invariant.holds h) hp).1
    have hne : as ≠ [] := by
      rintro rfl
      simpa using hs.2
    refine ⟨_, .parts k (outline_of_forall₂ has), fun x => ?_⟩
    rw [declaration_bounds convention x hne, declaration_withoutBounds]
  | @plain _ _ a _ hb' ho hs =>
    cases hb.symm.trans hb'
    exact ⟨[a.withoutBounds], .plain ho (hs.outline hp), fun x => by
      rw [← declaration_withoutBounds, List.map_singleton]⟩

theorem Settles.outline {root : T} {e : E} {v : TypeVariable}
    (h : m.Settles convention root e v) :
    ∃ t b bs, m.kind t = .typeVariable ∧ m.element? t = some e ∧ m.upperBound? t = some b ∧
      m.BoundsOutline b bs ∧ v.declaration = TypeVariable.declaration ⟨m.elementName e, bs⟩ := by
  obtain ⟨t, p, a, q, hm, k, he, hn, hs, hv⟩ := h
  have hp := outline_invariant.meets hm
  obtain ⟨w, hw, -⟩ | ⟨-, as, r, hb, -, rfl⟩ := hs.step.variable_cases k he
  · cases hn.symm.trans hw
  · rw [Progress.remember_get?, if_pos rfl] at hv
    cases hv
    have hp' : (m.entered t e p).All fun e v => v.name = m.elementName e :=
      Progress.All.remember (p := p.met (m.kind t)) hp rfl
    obtain ⟨b, hub⟩ : ∃ b, m.upperBound? t = some b := by
      cases hb with
      | object h | parts h | plain h => exact ⟨_, h⟩
    obtain ⟨bs, hbs, hd⟩ := hb.outline hub hp'
    exact ⟨t, b, bs, k, he, hub, hbs, hd _⟩

theorem written_alike (hm : m.Coherent) :
    (∀ c c' root root' t p p' a a' q q', m.Meets c root t p → m.Meets c' root' t p' →
      m.Succeeds c t p a q → m.Succeeds c' t p' a' q' →
        a.withoutBounds = a'.withoutBounds ∧ a.render = a'.render) ∧
    ∀ c c' root root' e v v', m.Settles c root e v → m.Settles c' root' e v' →
      v.declaration = v'.declaration := by
  constructor
  · intro c c' root root' t p p' a a' q q' hp hp' ha ha'
    have ho : a.withoutBounds = a'.withoutBounds :=
      (ha.outline (outline_invariant.meets hp)).unique (ha'.outline (outline_invariant.meets hp'))
    refine ⟨ho, ?_⟩
    rw [← a.render_withoutBounds, ho, a'.render_withoutBounds]
  · intro c c' root root' e v v' h h'
    obtain ⟨s, b, bs, ks, hs, hb, hbs, hv⟩ := h.outline
    obtain ⟨t, b', bs', kt, ht, hb', hbs', hv'⟩ := h'.outline
    rw [hm s t e ks kt hs ht, hb'] at hb
    cases hb
    rw [hv, hv', hbs.unique hbs']

section Pair

open Table

theorem pair_coherent : pair.model.Coherent := pair.coherent (by decide)

def bWithinA : TypeVariable := ⟨"B", [comparable "A"]⟩

def bAlone : TypeVariable :=
  ⟨"B", [.parameterized (.javaLang "Comparable") [.typeVariable "A" [comparable "B"]]]⟩

def withinA : Progress Nat :=
  ⟨[(0, .unbounded "A")], [.converting .declared, .converting .typeVariable]⟩

theorem pair_meets : pair.model.Meets .wrap 0 1 withinA := by
  have hc : pair.model.HasName 2 (.ok (.javaLang "Comparable")) := ⟨3, rfl⟩
  have hb : pair.model.PlainBound pair.model.HasName 2 := ⟨by decide, fun _ ha => by cases ha⟩
  have bound := Opens.bound (m := pair.model) (t := 0) (p := .start) rfl rfl rfl rfl hb
  have argument := Opens.arguments (m := pair.model) (t := 2)
    (p := (Progress.start.met .typeVariable).remember 0 ⟨"A", []⟩) rfl rfl hc
  exact .tail (.single bound.calls_head) argument.calls_head

theorem pair_written_alike :
    pair.model.Coherent ∧ pair.model.Meets .wrap 0 1 withinA ∧
    pair.model.Meets .flatten 1 1 .start ∧
    (∃ q, pair.model.Succeeds .wrap 1 withinA bWithinA.typeName q) ∧
    (∃ q, pair.model.Succeeds .flatten 1 .start bAlone.typeName q) ∧
    bWithinA.typeName.withoutBounds = bAlone.typeName.withoutBounds ∧
    bWithinA.typeName.render = bAlone.typeName.render ∧
    pair.model.Settles .wrap 0 1 bWithinA ∧ pair.model.Settles .flatten 1 1 bAlone ∧
    bWithinA ≠ bAlone ∧ bWithinA.declaration = bAlone.declaration := by
  have hp := pair_meets
  have hp' : pair.model.Meets .flatten 1 1 .start := .refl
  have ha : pair.model.Succeeds .wrap 1 withinA bWithinA.typeName _ := ⟨10, rfl⟩
  have ha' : pair.model.Succeeds .flatten 1 .start bAlone.typeName _ := ⟨10, rfl⟩
  have hs : pair.model.Settles .wrap 0 1 bWithinA := ⟨1, _, _, _, hp, rfl, rfl, rfl, ha, rfl⟩
  have hs' : pair.model.Settles .flatten 1 1 bAlone := ⟨1, _, _, _, hp', rfl, rfl, rfl, ha', rfl⟩
  obtain ⟨alike, declared⟩ := written_alike pair_coherent
  obtain ⟨ho, hr⟩ := alike _ _ _ _ _ _ _ _ _ _ _ hp hp' ha ha'
  exact ⟨pair_coherent, hp, hp', ⟨_, ha⟩, ⟨_, ha'⟩, ho, hr, hs, hs', by decide,
    declared _ _ _ _ _ _ _ hs hs'⟩

end Pair

end

end JavaTypes.TypeModel
