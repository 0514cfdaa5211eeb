import Mathlib.Data.Set.Insert
import JavaTypes.Proofs.Conversion.Calls
import JavaTypes.Proofs.Conversion.Memory
import JavaTypes.Proofs.Conversion.WellFormed

/-!
Where a conversion resolves the bounds of type variables. It comes to a variable any number of
times, but only once without an entry for its element, since entries are never taken out of the memo
of a conversion that succeeds.
-/

namespace JavaTypes

section Keys

variable {E : Type} [DecidableEq E] {p q : Progress E}

def Progress.keys (p : Progress E) : Set E := {e | ∃ v, p.memo.get? e = some v}

theorem Progress.notMem_keys {e : E} : e ∉ p.keys ↔ p.memo.get? e = none := by
  rw [Option.eq_none_iff_forall_ne_some]
  exact not_exists

@[simp] theorem Progress.keys_start : (Progress.start : Progress E).keys = ∅ := by
  ext e
  simp [Progress.keys, Progress.start]

@[simp] theorem Progress.keys_emit (event : Event) (p : Progress E) :
    (p.emit event).keys = p.keys := rfl

@[simp] theorem Progress.keys_met (kind : TypeKind) (p : Progress E) :
    (p.met kind).keys = p.keys := rfl

@[simp] theorem Progress.keys_remember (e : E) (v : TypeVariable) (p : Progress E) :
    (p.remember e v).keys = insert e p.keys := by
  ext f
  by_cases hf : e = f
  · simp [Progress.keys, hf]
  · simp [Progress.keys, hf, Ne.symm hf]

theorem Progress.Extends.keys_subset (h : q.Extends p) : p.keys ⊆ q.keys := by
  rintro e ⟨v, hv⟩
  exact ⟨v, h e v hv⟩

end Keys

namespace TypeModel

variable {T E : Type} [DecidableEq E] {m : TypeModel T E} {convention : Convention} {t : T}
  {p q r : Progress E} {ts : List T}

theorem Opens.keys_subset (h : m.Opens t p ts r) : p.keys ⊆ r.keys := by
  cases h with
  | component | arguments | parts => exact subset_rfl
  | bound | boundParts =>
    rw [Progress.keys_remember]
    exact Set.subset_insert _ _

theorem Opens.unique {ss : List T} {s : Progress E} (h : m.Opens t p ts r)
    (h' : m.Opens t p ss s) : ts = ss ∧ r = s := by
  cases h with
  | component k hc =>
    cases h' with
    | component _ hc' =>
      cases hc.symm.trans hc'
      exact ⟨rfl, rfl⟩
    | arguments k' | parts k' | bound k' | boundParts k' => cases k.symm.trans k'
  | arguments k =>
    cases h' with
    | arguments => exact ⟨rfl, rfl⟩
    | component k' | parts k' | bound k' | boundParts k' => cases k.symm.trans k'
  | parts k =>
    cases h' with
    | parts => exact ⟨rfl, rfl⟩
    | component k' | arguments k' | bound k' | boundParts k' => cases k.symm.trans k'
  | bound k he _ hb ho =>
    cases h' with
    | bound _ he' _ hb' =>
      cases he.symm.trans he'
      cases hb.symm.trans hb'
      exact ⟨rfl, rfl⟩
    | boundParts _ _ _ hb' kb =>
      cases hb.symm.trans hb'
      exact absurd kb ho.1
    | component k' | arguments k' | parts k' => cases k.symm.trans k'
  | boundParts k he _ hb kb =>
    cases h' with
    | bound _ _ _ hb' ho =>
      cases hb.symm.trans hb'
      exact absurd kb ho.1
    | boundParts _ he' _ hb' =>
      cases he.symm.trans he'
      cases hb.symm.trans hb'
      exact ⟨rfl, rfl⟩
    | component k' | arguments k' | parts k' => cases k.symm.trans k'

theorem Opens.of_leaf {a : TypeName} (ho : m.Opens t p ts r) (hl : m.Leaf m.HasName t a) :
    ts = [] ∧ r = p.met (m.kind t) := by
  cases hl with
  | primitive k | void k | null k =>
    cases ho with
    | component k' | arguments k' | parts k' | bound k' | boundParts k' => cases k.symm.trans k'
  | named k _ _ ha =>
    cases ho with
    | arguments => exact ⟨ha, rfl⟩
    | component k' | parts k' | bound k' | boundParts k' => cases k.symm.trans k'

theorem Opens.of_variable {e : E} (h : m.Opens t p ts r) (k : m.kind t = .typeVariable)
    (he : m.element? t = some e) :
    p.memo.get? e = none ∧ r = m.entered t e p ∧ ∃ b, m.upperBound? t = some b ∧
      ¬ m.IsObject b ∧ ∀ err, ¬ m.UnnamedBound m.HasName b err := by
  cases h with
  | component k' | arguments k' | parts k' => cases k.symm.trans k'
  | bound _ he' hv hb ho =>
    cases he.symm.trans he'
    exact ⟨hv, rfl, _, hb, ho.not_isObject, fun _ => ho.not_unnamed⟩
  | boundParts _ he' hv hb kb =>
    cases he.symm.trans he'
    have hd : m.kind _ ≠ .declared := fun kd => by cases kb.symm.trans kd
    exact ⟨hv, rfl, _, hb, fun ho => hd ho.1, fun _ hu => hd hu.1⟩

theorem Opens.not_fault {err : ConversionError} (h : m.Opens t p ts r) :
    ¬ m.Fault m.HasName t err := by
  intro hf
  cases h with
  | component k hc =>
    cases hf with
    | unsupported ku => simp [k, TypeKind.isSupported] at ku
    | noComponent _ hn => cases hc.symm.trans hn
    | noElement k' | className k' | noVariable k' => cases k.symm.trans k'
  | arguments k he hc =>
    cases hf with
    | unsupported ku => simp [k, TypeKind.isSupported] at ku
    | noElement _ hn => cases he.symm.trans hn
    | className _ he' hn =>
      cases he.symm.trans he'
      cases hc.unique hn
    | noComponent k' | noVariable k' => cases k.symm.trans k'
  | parts k =>
    cases hf with
    | unsupported ku => simp [k, TypeKind.isSupported] at ku
    | noComponent k' | noElement k' | className k' | noVariable k' => cases k.symm.trans k'
  | bound k he | boundParts k he =>
    cases hf with
    | unsupported ku => simp [k, TypeKind.isSupported] at ku
    | noVariable _ hn => cases he.symm.trans hn
    | noComponent k' | noElement k' | className k' => cases k.symm.trans k'

theorem Step.opened {R : T → Progress E → TypeName → Progress E → Prop} {a : TypeName}
    (h : m.Step R m.HasName convention t p a q) (ho : m.Opens t p ts r) :
    ∃ as v, Each R ts r as v ∧ v.keys ⊆ q.keys := by
  cases h with
  | leaf hl =>
    obtain ⟨rfl, rfl⟩ := ho.of_leaf hl
    exact ⟨[], _, .nil _, subset_rfl⟩
  | array k hc hs =>
    obtain ⟨rfl, rfl⟩ := ho.unique (.component k hc)
    exact ⟨_, _, .cons hs (.nil _), subset_rfl⟩
  | applied k he hc _ hs =>
    obtain ⟨rfl, rfl⟩ := ho.unique (.arguments k he hc)
    exact ⟨_, _, hs, subset_rfl⟩
  | parts k hs =>
    obtain ⟨rfl, rfl⟩ := ho.unique (.parts k)
    exact ⟨_, _, hs.1, subset_rfl⟩
  | known k he hv => cases hv.symm.trans (ho.of_variable k he).1
  | fresh k he hv hs =>
    rw [Progress.keys_remember]
    cases hs with
    | object hb hob =>
      obtain ⟨-, -, b, hb', hn, -⟩ := ho.of_variable k he
      cases hb.symm.trans hb'
      exact absurd hob hn
    | parts hb kb hs =>
      obtain ⟨rfl, rfl⟩ := ho.unique (.boundParts k he hv hb kb)
      exact ⟨_, _, hs.1, Set.subset_insert _ _⟩
    | plain hb hob hs =>
      obtain ⟨rfl, rfl⟩ := ho.unique (.bound k he hv hb hob)
      exact ⟨_, _, .cons hs (.nil _), Set.subset_insert _ _⟩

theorem exists_succeeds_of_each {before after : List T} {as bs : List TypeName}
    (hb : Each (m.Succeeds convention) before r as p)
    (h : Each (m.Succeeds convention) (before ++ t :: after) r bs q) :
    ∃ a v, m.Succeeds convention t p a v ∧ v.keys ⊆ q.keys := by
  obtain ⟨_, _, u, hb', ha⟩ := h.of_append
  cases hb.unique hb' fun h h' => (h.unique h').2
  cases ha with
  | cons ht ha => exact ⟨_, _, ht, (ha.extends Succeeds.extends).keys_subset⟩

variable {x y z : T × Progress E}

theorem Calls.keys_subset (h : m.Calls convention x y) : x.2.keys ⊆ y.2.keys := by
  obtain ⟨before, after, r, as, ho, hb⟩ := h
  exact ho.keys_subset.trans (hb.extends Succeeds.extends).keys_subset

theorem Calls.succeeds {a : TypeName} (hc : m.Calls convention x y)
    (h : m.Succeeds convention x.1 x.2 a q) :
    ∃ b v, m.Succeeds convention y.1 y.2 b v ∧ v.keys ⊆ q.keys := by
  obtain ⟨before, after, r, as, ho, hb⟩ := hc
  obtain ⟨bs, w, hs, hw⟩ := h.step.opened ho
  obtain ⟨b, v, hy, hv⟩ := exists_succeeds_of_each hb hs
  exact ⟨b, v, hy, hv.trans hw⟩

def Within (m : TypeModel T E) (convention : Convention) (y x : T × Progress E) : Prop :=
  Relation.ReflTransGen (m.Calls convention) x y

theorem Within.keys_subset (h : m.Within convention y x) : x.2.keys ⊆ y.2.keys := by
  induction h with
  | refl => exact subset_rfl
  | tail _ hc ih => exact ih.trans hc.keys_subset

theorem Within.succeeds {a : TypeName} (hy : m.Within convention y x)
    (h : m.Succeeds convention x.1 x.2 a q) :
    ∃ b v, m.Succeeds convention y.1 y.2 b v ∧ v.keys ⊆ q.keys := by
  induction hy with
  | refl => exact ⟨a, q, h, subset_rfl⟩
  | tail _ hc ih =>
    obtain ⟨b, v, hs, hv⟩ := ih
    obtain ⟨c, w, hs', hw⟩ := hc.succeeds hs
    exact ⟨c, w, hs', hw.trans hv⟩

theorem Succeeds.mem_keys {a : TypeName} {e : E} (h : m.Succeeds convention t p a q)
    (k : m.kind t = .typeVariable) (he : m.element? t = some e) : e ∈ q.keys := by
  obtain ⟨v, hv, -, hq⟩ | ⟨-, as, r, -, -, rfl⟩ := h.step.variable_cases k he
  · exact ⟨v, by rw [hq, hv]⟩
  · rw [Progress.keys_remember]
    exact Set.mem_insert e r.keys

section Resolving

variable {e : E}

def OfVariable (m : TypeModel T E) (e : E) (x : T × Progress E) : Prop :=
  m.kind x.1 = .typeVariable ∧ m.element? x.1 = some e

/-- The conversion of a variable of `e` without an entry, which has to convert the bound. -/
def Resolving (m : TypeModel T E) (e : E) (x : T × Progress E) : Prop :=
  m.OfVariable e x ∧ x.2.memo.get? e = none

theorem Fault.not_resolving {err : ConversionError} (h : m.Fault m.HasName t err) :
    ¬ m.Resolving e (t, p) := by
  rintro ⟨⟨k, he⟩, -⟩
  cases h with
  | unsupported ku =>
    have k : m.kind t = .typeVariable := k
    simp [k, TypeKind.isSupported] at ku
  | noVariable _ hn => cases he.symm.trans hn
  | noComponent k' | noElement k' | className k' => cases k.symm.trans k'

theorem Within.mem_keys {a : TypeName} (hy : m.Within convention y x) (he : m.OfVariable e y)
    (h : m.Succeeds convention x.1 x.2 a q) : e ∈ q.keys := by
  obtain ⟨b, v, hs, hv⟩ := hy.succeeds h
  exact hv (hs.mem_keys he.1 he.2)

theorem Within.not_resolving (hy : m.Within convention y x) (he : e ∈ x.2.keys) :
    ¬ m.Resolving e y := by
  intro hr
  exact Progress.notMem_keys.mpr hr.2 (hy.keys_subset he)

theorem Resolving.mem_keys_of_calls (h : m.Resolving e x) (hc : m.Calls convention x y) :
    e ∈ y.2.keys := by
  obtain ⟨before, after, r, as, ho, hb⟩ := hc
  obtain ⟨-, rfl, -⟩ := ho.of_variable h.1.1 h.1.2
  apply (hb.extends Succeeds.extends).keys_subset
  rw [entered, Progress.keys_remember]
  exact Set.mem_insert e _

theorem Resolving.eq_of_within (h : m.Resolving e x) (hy : m.Within convention y x)
    (he : m.Resolving e y) : y = x := by
  obtain rfl | ⟨z, hz, hy⟩ := hy.cases_head
  · rfl
  · exact absurd he (Within.not_resolving hy (h.mem_keys_of_calls hz))

theorem eq_or_succeeds_of_each {before mid after after' : List T} {as bs : List TypeName}
    (hx : Each (m.Succeeds convention) before r as x.2)
    (hy : Each (m.Succeeds convention) (before ++ mid) r bs y.2)
    (h : x.1 :: after = mid ++ y.1 :: after') :
    x = y ∨ ∃ a v, m.Succeeds convention x.1 x.2 a v ∧ v.keys ⊆ y.2.keys := by
  cases mid with
  | nil =>
    rw [List.append_nil] at hy
    exact .inl (Prod.ext (List.cons.inj h).1 (hx.unique hy fun h h' => (h.unique h').2))
  | cons t mid =>
    cases (List.cons.inj h).1
    exact .inr (exists_succeeds_of_each hx hy)

theorem Calls.eq_or_keys_subset (hy : m.Calls convention x y) (hz : m.Calls convention x z) :
    y = z ∨ (∃ a v, m.Succeeds convention y.1 y.2 a v ∧ v.keys ⊆ z.2.keys) ∨
      ∃ a v, m.Succeeds convention z.1 z.2 a v ∧ v.keys ⊆ y.2.keys := by
  obtain ⟨before, after, r, as, ho, hy⟩ := hy
  obtain ⟨before', after', r', bs, ho', hz⟩ := hz
  obtain ⟨heq, rfl⟩ := ho.unique ho'
  obtain ⟨mid, rfl, hmid⟩ | ⟨mid, rfl, hmid⟩ := List.append_eq_append_iff.mp heq
  · exact (eq_or_succeeds_of_each hy hz hmid).imp id .inl
  · exact (eq_or_succeeds_of_each hz hy hmid).imp Eq.symm .inr

theorem Within.eq_of_resolving (hy : m.Within convention y x) (hz : m.Within convention z x)
    (hey : m.Resolving e y) (hez : m.Resolving e z) : y = z := by
  induction hy using Relation.ReflTransGen.head_induction_on with
  | refl => exact (hey.eq_of_within hz hez).symm
  | @head x s hs hy ih =>
    -- Both lie in one call of `x`, or in two of which the later finds an entry of the earlier.
    obtain rfl | ⟨u, hu, hz⟩ := hz.cases_head
    · exact hez.eq_of_within (hy.head hs) hey
    · obtain rfl | ⟨b, v, hb, hv⟩ | ⟨b, v, hb, hv⟩ := hs.eq_or_keys_subset hu
      · exact ih hz
      · exact absurd hez (Within.not_resolving hz (hv (Within.mem_keys hy hey.1 hb)))
      · exact absurd hey (Within.not_resolving hy (hv (Within.mem_keys hz hez.1 hb)))

end Resolving

end TypeModel

end JavaTypes
