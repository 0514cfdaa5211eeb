import Mathlib.Data.Set.Function
import JavaTypes.Proofs.Conversion.Memory
import JavaTypes.Proofs.Conversion.Tables
import JavaTypes.TypeName.Nodes

/-!
Every type variable with bounds that occurs in a name is an entry of the memo, and an entry with
bounds never changes. So where names tell the declarations of variables apart, one name stands for
one value, and no such value lies within itself.
-/

namespace JavaTypes.TypeModel

variable {T E : Type} [DecidableEq E] {m : TypeModel T E} {p q : Progress E}

/-- A variable without bounds may be a placeholder, which need not be there any more. -/
def Entered (m : TypeModel T E) (p : Progress E) (n : TypeName) : Prop :=
  ∀ x bs, n = .typeVariable x bs → bs ≠ [] →
    ∃ e, m.Declares e ∧ m.elementName e = x ∧ p.memo.get? e = some ⟨x, bs⟩

def Recorded (m : TypeModel T E) (p : Progress E) (a : TypeName) : Prop :=
  ∀ n ∈ a.nodes, m.Entered p n

def Closed (m : TypeModel T E) (p : Progress E) : Prop :=
  ∀ e v, p.memo.get? e = some v → m.Recorded p v.typeName

theorem Recorded.extends {a : TypeName} (h : m.Recorded p a) (hq : q.Extends p) :
    m.Recorded q a := by
  intro n hn x bs hx hbs
  obtain ⟨e, hd, hname, he⟩ := h n hn x bs hx hbs
  exact ⟨e, hd, hname, hq e _ he⟩

theorem recorded_of_children {a : TypeName} (h : m.Entered p a)
    (hc : ∀ s ∈ a.children, m.Recorded p s) : m.Recorded p a :=
  TypeName.forall_mem_nodes.mpr ⟨h, hc⟩

theorem entered_of_ne {a : TypeName} (h : ∀ x bs, a ≠ .typeVariable x bs) : m.Entered p a :=
  fun x bs hx => absurd hx (h x bs)

theorem recorded_unbounded (x : String) : m.Recorded p (.typeVariable x []) := by
  apply recorded_of_children
  · rintro y bs hy hbs
    cases hy
    exact absurd rfl hbs
  · exact nofun

theorem Leaf.recorded {t : T} {a : TypeName} (h : m.Leaf m.HasName t a) : m.Recorded p a := by
  apply recorded_of_children
  · cases h <;> exact entered_of_ne nofun
  · cases h <;> exact nofun

theorem Closed.start : m.Closed .start := by
  intro e v h
  cases h

theorem Closed.placeholder {e : E} (h : m.Closed p) (hn : p.memo.get? e = none) (x : String) :
    m.Closed (p.remember e (.unbounded x)) := by
  intro f v hv
  rw [Progress.remember_get?] at hv
  split at hv
  · cases hv
    exact recorded_unbounded x
  · exact (h f v hv).extends (.remember p hn _)

theorem Recorded.settle {e : E} {x : String} {a : TypeName} (h : m.Recorded q a)
    (he : q.memo.get? e = some (.unbounded x)) (v : TypeVariable) :
    m.Recorded (q.remember e v) a := by
  intro n hn y bs hy hbs
  obtain ⟨f, hd, hname, hf⟩ := h n hn y bs hy hbs
  have hne : e ≠ f := by
    rintro rfl
    cases he.symm.trans hf
    exact hbs rfl
  exact ⟨f, hd, hname, by rw [Progress.remember_get?, if_neg hne, hf]⟩

section Steps

variable {R : T → Progress E → TypeName → Progress E → Prop} {convention : Convention} {t : T}

def Records (m : TypeModel T E) (p : Progress E) (as : List TypeName) (q : Progress E) : Prop :=
  q.Extends p ∧ (m.Closed p → m.Closed q ∧ ∀ a ∈ as, m.Recorded q a)

theorem records_each {ts : List T} {as : List TypeName} (h : Each R ts p as q)
    (hR : ∀ t p a q, R t p a q → m.Records p [a] q) : m.Records p as q := by
  induction h with
  | nil p => exact ⟨.refl p, fun hp => ⟨hp, nofun⟩⟩
  | cons h _ ih =>
    obtain ⟨hq, hqc⟩ := hR _ _ _ _ h
    refine ⟨ih.1.trans hq, fun hp => ?_⟩
    obtain ⟨hc, ha⟩ := hqc hp
    obtain ⟨hr, has⟩ := ih.2 hc
    exact ⟨hr, List.forall_mem_cons.mpr ⟨(ha _ List.mem_cons_self).extends ih.1, has⟩⟩

theorem BoundsStep.records {as : List TypeName}
    (h : m.BoundsStep R m.HasName convention t p as q)
    (hR : ∀ t p a q, R t p a q → m.Records p [a] q) : m.Records p as q := by
  cases h with
  | object => exact ⟨.refl p, fun hp => ⟨hp, nofun⟩⟩
  | @parts _ _ as _ _ _ hs =>
    obtain ⟨hq, hqc⟩ := records_each hs.1 hR
    refine ⟨hq, fun hp => ⟨(hqc hp).1, ?_⟩⟩
    cases convention with
    | flatten => exact (hqc hp).2
    | wrap =>
      intro a ha
      cases List.mem_singleton.mp ha
      exact recorded_of_children (entered_of_ne nofun) (hqc hp).2
  | plain _ _ hs => exact hR _ _ _ _ hs

theorem Records.of_met {kind : TypeKind} {as : List TypeName} (h : m.Records (p.met kind) as q) :
    m.Records p as q := h

theorem Records.name {a : TypeName} (h : m.Records p a.children q) (ha : m.Entered q a) :
    m.Records p [a] q := by
  refine ⟨h.1, fun hp => ⟨(h.2 hp).1, ?_⟩⟩
  intro b hb
  cases List.mem_singleton.mp hb
  exact recorded_of_children ha (h.2 hp).2

theorem Step.records {a : TypeName} (h : m.Step R m.HasName convention t p a q)
    (hR : ∀ t p a q, R t p a q → m.Records p [a] q) : m.Records p [a] q := by
  cases h with
  | leaf hl =>
    refine ⟨.refl p, fun hp => ⟨hp, fun b hb => ?_⟩⟩
    cases List.mem_singleton.mp hb
    exact hl.recorded
  | array k hc hs =>
    have hs := (hR _ _ _ _ hs).of_met
    exact hs.name (entered_of_ne nofun)
  | applied k he hc ha hs =>
    have hs := (records_each hs hR).of_met
    exact hs.name (entered_of_ne nofun)
  | parts k hs =>
    have hs := (records_each hs.1 hR).of_met
    exact hs.name (entered_of_ne nofun)
  | @known e v _ k he hv =>
    refine ⟨.refl p, fun hp => ⟨hp, fun b hb => ?_⟩⟩
    cases List.mem_singleton.mp hb
    exact hp e v hv
  | @fresh e _ as q k he hv hs =>
    have hv : p.memo.get? e = none := hv
    obtain ⟨hq, hqc⟩ := BoundsStep.records hs hR
    refine ⟨.overwrite hv hq, fun hp => ?_⟩
    obtain ⟨hc, has⟩ := hqc (Closed.placeholder hp hv _)
    have hold : q.memo.get? e = some (.unbounded (m.elementName e)) :=
      hq e _ (by rw [Progress.remember_get?, if_pos rfl])
    have ha : m.Recorded (q.remember e ⟨m.elementName e, as⟩)
        (.typeVariable (m.elementName e) as) := by
      apply recorded_of_children
      · rintro x bs hx hbs
        cases hx
        exact ⟨e, ⟨t, k, he⟩, rfl, by rw [Progress.remember_get?, if_pos rfl]⟩
      · exact fun b hb => (has b hb).settle hold _
    refine ⟨fun f v hf => ?_, fun b hb => ?_⟩
    · rw [Progress.remember_get?] at hf
      split at hf
      · cases hf
        exact ha
      · exact (hc f v hf).settle hold _
    · cases List.mem_singleton.mp hb
      exact ha

theorem Succeeds.recorded {a : TypeName} (h : m.Succeeds convention t .start a q) :
    m.Recorded q a := by
  have hr : m.Records .start [a] q :=
    h.induct (P := fun _ p a q => m.Records p [a] q) fun h => h.records fun _ _ _ _ h => h
  exact (hr.2 .start).2 a List.mem_cons_self

end Steps

theorem variables_of_report {s : Settings} {n : Nat} {t : T} {a : TypeName}
    (hN : Set.InjOn m.elementName {e | m.Declares e}) (h : (m.report s n t).result = .ok a) :
    (∀ x bs cs, .typeVariable x bs ∈ a.nodes → .typeVariable x cs ∈ a.nodes → bs ≠ [] → cs ≠ [] →
      TypeName.typeVariable x bs = .typeVariable x cs) ∧
    ∀ x bs cs, .typeVariable x bs ∈ a.nodes → (∃ b ∈ bs, .typeVariable x cs ∈ b.nodes) →
      cs = [] := by
  obtain ⟨q, hy⟩ := report_ok h
  have recorded : m.Recorded q a := Succeeds.recorded ⟨n, hy⟩
  have same : ∀ x bs cs, .typeVariable x bs ∈ a.nodes → .typeVariable x cs ∈ a.nodes → bs ≠ [] →
      cs ≠ [] → TypeName.typeVariable x bs = .typeVariable x cs := by
    intro x bs cs hb hc hbs hcs
    obtain ⟨e, he, hex, hev⟩ := recorded _ hb x bs rfl hbs
    obtain ⟨f, hf, hfx, hfv⟩ := recorded _ hc x cs rfl hcs
    have hef : e = f := hN he hf (hex.trans hfx.symm)
    subst hef
    cases hev.symm.trans hfv
    rfl
  refine ⟨same, fun x bs cs hx hb => ?_⟩
  -- With bounds, a variable below one of its name would be that one, and so lie within itself.
  obtain ⟨b, hb, hc⟩ := hb
  by_contra hcs
  have hchild : b ∈ (TypeName.typeVariable x bs).children := hb
  have hca := TypeName.nodes_trans hx (TypeName.nodes_subset hchild hc)
  have heq := same x bs cs hx hca (List.ne_nil_of_mem hb) hcs
  rw [← heq] at hc
  exact TypeName.not_mem_nodes_of_child hchild hc

section Pair

open Table

theorem pair_injOn_elementName :
    Set.InjOn pair.model.elementName {e | pair.model.Declares e} :=
  pair.injOn_elementName (by decide)

def pairName : TypeName :=
  let b := .typeVariable "B" [comparable "A"]
  .parameterized ⟨["com", "example"], [], "Pair"⟩
    [.typeVariable "A" [.parameterized ⟨["java", "lang"], [], "Comparable"⟩ [b]], b]

theorem report_pair : (pair.model.report .default 10 4).result = .ok pairName :=
  rfl

theorem pair_variables :
    Set.InjOn pair.model.elementName {e | pair.model.Declares e} ∧
    (pair.model.report .default 10 4).result = .ok pairName ∧
    (∀ x bs cs, .typeVariable x bs ∈ pairName.nodes →
      .typeVariable x cs ∈ pairName.nodes → bs ≠ [] → cs ≠ [] →
      TypeName.typeVariable x bs = .typeVariable x cs) ∧
    ∀ x bs cs, .typeVariable x bs ∈ pairName.nodes →
      (∃ b ∈ bs, .typeVariable x cs ∈ b.nodes) → cs = [] :=
  ⟨pair_injOn_elementName, report_pair,
    variables_of_report pair_injOn_elementName report_pair⟩

end Pair

end JavaTypes.TypeModel
