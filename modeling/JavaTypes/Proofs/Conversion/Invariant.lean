import Mathlib.Data.List.Forall2
import Mathlib.Data.Set.Insert
import JavaTypes.Proofs.Conversion.Run

namespace JavaTypes

def Progress.All {E : Type} [DecidableEq E] (I : E → TypeVariable → Prop) (p : Progress E) : Prop :=
  ∀ e v, p.memo.get? e = some v → I e v

namespace Progress.All

variable {E : Type} [DecidableEq E] {I : E → TypeVariable → Prop} {p : Progress E}

theorem start : Progress.start.All I := by
  intro e v h
  cases h

theorem remember (h : p.All I) {e : E} {v : TypeVariable} (hv : I e v) :
    (p.remember e v).All I := by
  intro f w hw
  rw [Progress.remember_get?] at hw
  split at hw
  next hef =>
    cases hw
    exact hef ▸ hv
  next => exact h f w hw

end Progress.All

/-- Every entry has the property but for those of the variables in `X`, which are in progress. -/
def Progress.AllBut {E : Type} [DecidableEq E] (X : Set E) (I : E → TypeVariable → Prop)
    (p : Progress E) : Prop :=
  p.All fun e v => e ∈ X ∨ I e v

namespace Progress.AllBut

variable {E : Type} [DecidableEq E] {I : E → TypeVariable → Prop} {p : Progress E} {X : Set E}
  {e : E}

theorem start : Progress.start.AllBut X I := All.start

theorem placeholder (h : p.AllBut X I) (e : E) (v : TypeVariable) :
    (p.remember e v).AllBut (insert e X) I :=
  All.remember (fun f w hf => (h f w hf).imp_left .inr) (.inl (.inl rfl))

theorem of_ne (h : p.AllBut (insert e X) I) {f : E} (hne : e ≠ f) {v : TypeVariable}
    (hf : p.memo.get? f = some v) : f ∈ X ∨ I f v := by
  obtain (rfl | hX) | hv := h f v hf
  · exact absurd rfl hne
  · exact .inl hX
  · exact .inr hv

theorem settle (h : p.AllBut (insert e X) I) {v : TypeVariable} (hv : I e v) :
    (p.remember e v).AllBut X I := by
  intro f w hf
  rw [Progress.remember_get?] at hf
  split at hf
  next hef =>
    cases hf
    exact .inr (hef ▸ hv)
  next hne => exact h.of_ne hne hf

theorem forget (h : p.AllBut (insert e X) I) : (p.forget e).AllBut X I := by
  intro f w hf
  rw [Progress.forget_get?] at hf
  split at hf
  next => cases hf
  next hne => exact h.of_ne hne hf

end Progress.AllBut

theorem exists_left_of_mem {α β : Type} {R : α → β → Prop} {xs : List α} {ys : List β}
    (h : List.Forall₂ R xs ys) {y : β} (hy : y ∈ ys) : ∃ x ∈ xs, R x y := by
  induction h with
  | nil => cases hy
  | cons hxy _ ih =>
    cases hy with
    | head => exact ⟨_, List.mem_cons_self, hxy⟩
    | tail _ hy =>
      obtain ⟨x, hx, hR⟩ := ih hy
      exact ⟨x, List.mem_cons_of_mem _ hx, hR⟩

theorem Each.all {T E : Type} [DecidableEq E] {G : T → TypeName → Prop}
    {I : E → TypeVariable → Prop} {R : T → Progress E → TypeName → Progress E → Prop}
    {ts : List T} {as : List TypeName} {p q : Progress E} (h : Each R ts p as q)
    (hR : ∀ t p a q, R t p a q → p.All I → G t a ∧ q.All I) (hp : p.All I) :
    List.Forall₂ G ts as ∧ q.All I := by
  induction h with
  | nil p => exact ⟨.nil, hp⟩
  | cons h _ ih =>
    obtain ⟨ha, hq⟩ := hR _ _ _ _ h hp
    obtain ⟨has, hr⟩ := ih hq
    exact ⟨.cons ha has, hr⟩

namespace TypeModel

variable {T E : Type} [DecidableEq E] {m : TypeModel T E} {convention : Convention}

/-- `G` holds of every type and its name, and `I` of every element and what the memo has for it,
provided that they hold of the parts. -/
structure Invariant (m : TypeModel T E) (convention : Convention) (G : T → TypeName → Prop)
    (I : E → TypeVariable → Prop) : Prop where
  leaf {t a} : m.Leaf m.HasName t a → G t a
  array {t s a} : m.kind t = .array → m.component? t = some s → G s a → G t (.array a)
  applied {t e c as} : m.kind t = .declared → m.element? t = some e → m.HasName e (.ok c) →
    m.arguments t ≠ [] → List.Forall₂ G (m.arguments t) as → G t (.parameterized c as)
  parts {t as} : m.kind t = .intersection → List.Forall₂ G (m.parts t) as → 2 ≤ as.length →
    G t (.intersection as)
  known {t e v} : m.kind t = .typeVariable → m.element? t = some e → I e v → G t v.typeName
  placeholder {t e} : m.kind t = .typeVariable → m.element? t = some e →
    I e (.unbounded (m.elementName e))
  meet {t e b as} : m.kind t = .typeVariable → m.element? t = some e →
    m.upperBound? t = some b → m.kind b = .intersection → List.Forall₂ G (m.parts b) as →
    2 ≤ as.length → I e ⟨m.elementName e, convention.bounds as⟩
  plain {t e b a} : m.kind t = .typeVariable → m.element? t = some e →
    m.upperBound? t = some b → m.PlainBound m.HasName b → G b a → I e ⟨m.elementName e, [a]⟩

variable {G : T → TypeName → Prop} {I : E → TypeVariable → Prop}

theorem Invariant.step (h : m.Invariant convention G I)
    {R : T → Progress E → TypeName → Progress E → Prop}
    (hR : ∀ t p a q, R t p a q → p.All I → G t a ∧ q.All I) {t : T} {a : TypeName}
    {p q : Progress E} (hs : m.Step R m.HasName convention t p a q) (hp : p.All I) :
    G t a ∧ q.All I := by
  cases hs with
  | leaf hl => exact ⟨h.leaf hl, hp⟩
  | array k hc hs =>
    obtain ⟨ha, hq⟩ := hR _ _ _ _ hs hp
    exact ⟨h.array k hc ha, hq⟩
  | applied k he hc ha hs =>
    obtain ⟨has, hq⟩ := hs.all hR hp
    exact ⟨h.applied k he hc ha has, hq⟩
  | parts k hs =>
    obtain ⟨has, hq⟩ := hs.1.all hR hp
    exact ⟨h.parts k has hs.2, hq⟩
  | known k he hv => exact ⟨h.known k he (hp _ _ hv), hp⟩
  | fresh k he hv hs =>
    have hp' := Progress.All.remember (p := p.met (m.kind t)) hp (h.placeholder k he)
    suffices hb : I _ ⟨m.elementName _, _⟩ ∧ Progress.All I _ from
      ⟨h.known k he hb.1, hb.2.remember hb.1⟩
    cases hs with
    | object hb ho => exact ⟨h.placeholder k he, hp'⟩
    | parts hb kb hs =>
      obtain ⟨has, hq⟩ := hs.1.all hR hp'
      exact ⟨h.meet k he hb kb has hs.2, hq⟩
    | plain hb ho hs =>
      obtain ⟨ha, hq⟩ := hR _ _ _ _ hs hp'
      exact ⟨h.plain k he hb ho ha, hq⟩

theorem Invariant.holds (h : m.Invariant convention G I) {t : T} {a : TypeName}
    {p q : Progress E} (hs : m.Succeeds convention t p a q) (hp : p.All I) : G t a ∧ q.All I :=
  hs.induct (P := fun t p a q => p.All I → G t a ∧ q.All I)
    (fun hs => h.step (fun _ _ _ _ h => h) hs) hp

end TypeModel

end JavaTypes
