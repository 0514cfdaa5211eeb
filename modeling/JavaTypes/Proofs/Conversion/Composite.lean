import Mathlib.Data.List.Forall2
import JavaTypes.Proofs.Conversion.Expansion

namespace JavaTypes

def Convention.boundsOf (convention : Convention) : TypeName → List TypeName
  | .intersection parts => convention.bounds parts
  | a => [a]

theorem each_plain_iff {E T α : Type} {R : T → α → Prop} {ts : List T} {as : List α}
    {p q : Progress E} : Each (Plain R) ts p as q ↔ List.Forall₂ R ts as ∧ q = p := by
  constructor
  · intro h
    induction h with
    | nil => exact ⟨.nil, rfl⟩
    | cons h _ ih =>
      obtain ⟨hR, rfl⟩ := h
      exact ⟨.cons hR ih.1, ih.2⟩
  · rintro ⟨h, rfl⟩
    induction h with
    | nil => exact .nil q
    | cons h _ ih => exact .cons ⟨h, rfl⟩ ih

namespace TypeModel

variable {T E : Type} [DecidableEq E] {m : TypeModel T E} {convention : Convention} {s t : T}
  {e : E} {a : TypeName} {as : List TypeName}

theorem expands_parameterized {c : ClassName} (k : m.kind t = .declared)
    (he : m.element? t = some e) (hc : m.HasName e (.ok c))
    (h : List.Forall₂ (m.Expands convention) (m.arguments t) as) (ha : as ≠ []) :
    m.Expands convention t (.parameterized c as) := by
  have hne : m.arguments t ≠ [] := by
    intro hn
    rw [hn] at h
    cases h
    exact ha rfl
  exact .of_step (.applied k he hc hne (each_plain_iff.mpr ⟨h, rfl⟩))

theorem expands_intersection (k : m.kind t = .intersection)
    (h : List.Forall₂ (m.Expands convention) (m.parts t) as) (ha : 2 ≤ as.length) :
    m.Expands convention t (.intersection as) :=
  .of_step (.parts k ⟨each_plain_iff.mpr ⟨h, rfl⟩, ha⟩)

theorem Expands.plainBound (h : m.Expands convention s a) (hi : ∀ parts, a ≠ .intersection parts)
    (ho : a ≠ .named .object) : m.PlainBound m.HasName s := by
  obtain ⟨q, h⟩ := h.step
  constructor
  · intro k
    obtain ⟨parts, ha⟩ := h.kind_eq_intersection_iff.mp k
    exact hi parts ha
  · intro k hn e he
    cases h with
    | leaf h =>
      cases h with
      | named _ hf hc =>
        cases he.symm.trans hf
        refine ⟨_, hc, ?_⟩
        rintro rfl
        exact ho rfl
      | primitive k' | void k' | null k' => cases k.symm.trans k'
    | applied _ _ _ hn' => exact absurd hn hn'
    | array k' | parts k' | known k' | fresh k' => cases k.symm.trans k'

theorem Expands.boundsStep (h : m.Expands convention s a) (ho : a ≠ .named .object)
    (hs : m.upperBound? t = some s) (p : Progress E) :
    m.BoundsStep (Plain (m.Expands convention)) m.HasName convention t p
      (convention.boundsOf a) p := by
  by_cases hi : ∃ parts, a = .intersection parts
  · obtain ⟨parts, rfl⟩ := hi
    obtain ⟨q, hstep⟩ := h.step
    have k := hstep.kind_eq_intersection_iff.mpr ⟨parts, rfl⟩
    cases hstep with
    | leaf hl => cases hl
    | parts _ hp =>
      have hf := each_plain_iff.mp hp.1
      exact .parts hs k ⟨each_plain_iff.mpr ⟨hf.1, rfl⟩, hp.2⟩
  · have hi (parts : List TypeName) : a ≠ .intersection parts := fun ha => hi ⟨parts, ha⟩
    have hb : convention.boundsOf a = [a] := by
      unfold Convention.boundsOf
      split
      next => exact absurd rfl (hi _)
      next => rfl
    rw [hb]
    exact .plain hs (h.plainBound hi ho) ⟨h, rfl⟩

theorem expands_bounded (k : m.kind t = .typeVariable) (he : m.element? t = some e)
    (hs : m.upperBound? t = some s) (h : m.Expands convention s a) (ho : a ≠ .named .object) :
    m.Expands convention t (.typeVariable (m.elementName e) (convention.boundsOf a)) :=
  .of_step (.fresh k he rfl (h.boundsStep ho hs _))

theorem expands_unbounded (k : m.kind t = .typeVariable) (he : m.element? t = some e)
    (hs : m.upperBound? t = some s) (ho : m.IsObject s) :
    m.Expands convention t (.typeVariable (m.elementName e) []) :=
  .of_step (.fresh k he rfl (.object hs ho))

end TypeModel

end JavaTypes
