import JavaTypes.Proofs.Conversion.Below
import JavaTypes.Proofs.Conversion.Expansion
import JavaTypes.Proofs.Conversion.Grounded
import JavaTypes.Proofs.Conversion.Invariant

/-!
Where no path goes on for ever, the memo only saves work. A variable that is in progress does not
come up again before it is settled, and the entry of a settled variable is its expansion.
-/

namespace JavaTypes.TypeModel

variable {T E : Type} [DecidableEq E] {m : TypeModel T E} {convention : Convention} {X : Set E}
  {t : T} {e : E} {p q : Progress E}

/-- What the memo should have for an element: the expansion of every handle of it. -/
def Settled (m : TypeModel T E) (convention : Convention) (e : E) (v : TypeVariable) : Prop :=
  ∀ u, m.kind u = .typeVariable → m.element? u = some e → m.Expands convention u v.typeName

def Sure (m : TypeModel T E) (convention : Convention) (X : Set E) (p : Progress E) : Prop :=
  p.AllBut X (m.Settled convention)

def Aside (m : TypeModel T E) (X : Set E) (t : T) : Prop :=
  ∀ u e, Relation.ReflTransGen m.Leads t u → m.kind u = .typeVariable → m.element? u = some e →
    e ∉ X

/-- Converting `t` tells what its expansion tells, at every memo that only `X` makes unsure. -/
structure MemoFree (m : TypeModel T E) (convention : Convention) (X : Set E) (t : T) : Prop where
  expands {p a} : m.Sure convention X p → m.Expands convention t a →
    ∃ q, m.Succeeds convention t p a q ∧ m.Sure convention X q
  refuses {p err} : m.Sure convention X p → m.Refuses convention t err →
    ∃ q, m.Fails convention t p err q ∧ m.Sure convention X q
  succeeds {p a q} : m.Sure convention X p → m.Succeeds convention t p a q →
    m.Expands convention t a ∧ m.Sure convention X q
  fails {p err q} : m.Sure convention X p → m.Fails convention t p err q →
    m.Refuses convention t err ∧ m.Sure convention X q

theorem Sure.entered (h : m.Sure convention X p) :
    m.Sure convention (insert e X) (m.entered t e p) :=
  Progress.AllBut.placeholder (p := p.met (m.kind t)) h e _

omit [DecidableEq E] in
theorem Aside.below (h : m.Aside X t) {s : T} (hs : Relation.TransGen m.Leads t s) :
    m.Aside X s :=
  fun u e hu => h u e (hs.to_reflTransGen.trans hu)

omit [DecidableEq E] in
theorem Aside.insert (h : m.Aside X t) (ht : m.Grounded t) (hm : m.Coherent)
    (k : m.kind t = .typeVariable) (he : m.element? t = some e) {s : T}
    (hs : Relation.TransGen m.Leads t s) : m.Aside (insert e X) s := by
  rintro u f hu ku hf (rfl | hX)
  · exact ht.element_ne hm k he (.trans_left hs hu) ku hf
  · exact h.below hs u f hu ku hf hX

theorem expands_of_entry (h : m.Sure convention X p) (hX : m.Aside X t)
    (k : m.kind t = .typeVariable) (he : m.element? t = some e) {v : TypeVariable}
    (hv : p.memo.get? e = some v) : m.Expands convention t v.typeName := by
  obtain hin | hs := h e v hv
  · exact absurd hin (hX t e .refl k he)
  · exact hs t k he

section Below

variable (h : ∀ s, Relation.TransGen m.Leads t s → m.MemoFree convention X s)
include h

theorem simulates_expands :
    Simulates (m.Below t) (fun (_ p : Progress E) => m.Sure convention X p) Eq
      (Plain (m.Expands convention)) (m.Succeeds convention) := by
  rintro s _ p p' a q ⟨rfl, hs⟩ hp ⟨ha, -⟩
  obtain ⟨q', hs, hq⟩ := (h s hs).expands hp ha
  exact ⟨a, q', hs, rfl, hq⟩

theorem simulates_refuses :
    Simulates (m.Below t) (fun (_ p : Progress E) => m.Sure convention X p) Eq
      (Plain (m.Refuses convention)) (m.Fails convention) := by
  rintro s _ p p' err q ⟨rfl, hs⟩ hp ⟨hf, -⟩
  obtain ⟨q', hs, hq⟩ := (h s hs).refuses hp hf
  exact ⟨err, q', hs, rfl, hq⟩

theorem simulates_succeeds :
    Simulates (m.Below t) (fun (p _ : Progress E) => m.Sure convention X p) Eq
      (m.Succeeds convention) (Plain (m.Expands convention)) := by
  rintro s _ p p' a q ⟨rfl, hs⟩ hp ha
  obtain ⟨ha, hq⟩ := (h s hs).succeeds hp ha
  exact ⟨a, p', ⟨ha, rfl⟩, rfl, hq⟩

theorem simulates_fails :
    Simulates (m.Below t) (fun (p _ : Progress E) => m.Sure convention X p) Eq
      (m.Fails convention) (Plain (m.Refuses convention)) := by
  rintro s _ p p' err q ⟨rfl, hs⟩ hp hf
  obtain ⟨hf, hq⟩ := (h s hs).fails hp hf
  exact ⟨err, p', ⟨hf, rfl⟩, rfl, hq⟩

theorem memoFree_of_no_element (k : m.kind t = .typeVariable → m.element? t = none) :
    m.MemoFree convention X t where
  expands hp ha := by
    obtain ⟨_, hs⟩ := ha.step
    obtain ⟨q, hs, hq⟩ := hs.transfer (simulates_expands h) k hp
    exact ⟨q, .of_step hs, hq⟩
  refuses hp hf := by
    obtain ⟨_, hs⟩ := hf.step
    obtain ⟨q, hs, hq⟩ := hs.transfer (simulates_expands h) (simulates_refuses h) k hp
    exact ⟨q, .of_step hs, hq⟩
  succeeds hp ha := by
    obtain ⟨_, hs, hq⟩ := ha.step.transfer (r := .start) (simulates_succeeds h) k hp
    exact ⟨.of_step hs, hq⟩
  fails hp hf := by
    obtain ⟨_, hs, hq⟩ :=
      hf.step.transfer (r := .start) (simulates_succeeds h) (simulates_fails h) k hp
    exact ⟨.of_step hs, hq⟩

end Below

section Variable

omit [DecidableEq E] in
theorem BoundsStep.of_upperBound {R : T → Progress E → TypeName → Progress E → Prop}
    {N : E → Except ConversionError ClassName → Prop} {u : T} {as : List TypeName}
    (h : m.BoundsStep R N convention t p as q) (hb : m.upperBound? t = m.upperBound? u) :
    m.BoundsStep R N convention u p as q := by
  cases h with
  | object h ho => exact .object (hb ▸ h) ho
  | parts h k hs => exact .parts (hb ▸ h) k hs
  | plain h ho hs => exact .plain (hb ▸ h) ho hs

theorem settled_of_boundsStep (hm : m.Coherent) (k : m.kind t = .typeVariable)
    (he : m.element? t = some e) {as : List TypeName}
    (h : m.BoundsStep (Plain (m.Expands convention)) m.HasName convention t (m.entered t e .start)
      as q) : m.Settled convention e ⟨m.elementName e, as⟩ := by
  intro u ku hu
  have hs := h.of_upperBound (hm t u e k ku he hu)
  rw [entered, k, ← ku] at hs
  exact .of_step (.fresh ku hu rfl hs)

theorem memoFree_of_variable (hm : m.Coherent) (hX : m.Aside X t) (k : m.kind t = .typeVariable)
    (he : m.element? t = some e)
    (h : ∀ s, Relation.TransGen m.Leads t s → m.MemoFree convention (insert e X) s) :
    m.MemoFree convention X t where
  expands {p a} hp ha := by
    cases hv : p.memo.get? e with
    | some v =>
      cases ha.unique (expands_of_entry hp hX k he hv)
      exact ⟨_, .of_step (.known k he hv), hp⟩
    | none =>
      obtain ⟨_, hx⟩ := ha.step
      obtain ⟨v, hv, -⟩ | ⟨-, as, r, hs, rfl, -⟩ := hx.variable_cases k he
      · cases hv
      · obtain ⟨q, hs', hq⟩ := hs.transfer (simulates_expands h) k hp.entered
        exact ⟨_, .of_step (.fresh k he hv hs'), hq.settle (settled_of_boundsStep hm k he hs)⟩
  refuses {p err} hp hf := by
    cases hv : p.memo.get? e with
    | some v => exact absurd hf (expands_of_entry hp hX k he hv).not_refuses
    | none =>
      obtain ⟨_, hx⟩ := hf.step
      obtain ⟨-, r, hs, -⟩ := hx.variable_cases k he
      obtain ⟨q, hs', hq⟩ :=
        hs.transfer (simulates_expands h) (simulates_refuses h) k hp.entered
      exact ⟨_, .of_step (.fresh k he hv hs'), hq.forget⟩
  succeeds {p a q} hp ha := by
    obtain ⟨v, hv, rfl, hq⟩ | ⟨-, as, r, hs, rfl, rfl⟩ := ha.step.variable_cases k he
    · refine ⟨expands_of_entry hp hX k he hv, ?_⟩
      rw [Sure, Progress.AllBut, Progress.All, hq]
      exact hp
    · obtain ⟨_, hs, hq⟩ := hs.transfer (r := m.entered t e .start) (simulates_succeeds h) k
        hp.entered
      exact ⟨.of_step (.fresh k he rfl hs), hq.settle (settled_of_boundsStep hm k he hs)⟩
  fails {p err q} hp hf := by
    obtain ⟨-, r, hs, rfl⟩ := hf.step.variable_cases k he
    obtain ⟨_, hs, hq⟩ := hs.transfer (r := m.entered t e .start) (simulates_succeeds h)
      (simulates_fails h) k hp.entered
    exact ⟨.of_step (.fresh k he rfl hs), hq.forget⟩

end Variable

theorem memoFree_of_grounded (hm : m.Coherent) (ht : m.Grounded t) (hX : m.Aside X t) :
    m.MemoFree convention X t := by
  revert X
  -- On the paths from `t`. Below a variable there is one more in progress, which stays aside
  -- because no path comes back to it.
  apply ht.induct
  intro t ht ih X hX
  by_cases hv : m.kind t = .typeVariable ∧ ∃ e, m.element? t = some e
  · obtain ⟨k, e, he⟩ := hv
    exact memoFree_of_variable hm hX k he fun s hs => ih s hs (hX.insert ht hm k he hs)
  · apply memoFree_of_no_element
    · exact fun s hs => ih s hs (hX.below hs)
    · intro k
      cases he : m.element? t with
      | none => rfl
      | some e => exact absurd ⟨k, e, he⟩ hv

theorem succeeds_iff_expands (hm : m.Coherent) (ht : m.Grounded t) {a : TypeName} :
    (∃ q, m.Succeeds convention t .start a q) ↔ m.Expands convention t a := by
  have h : m.MemoFree convention ∅ t := memoFree_of_grounded hm ht fun _ _ _ _ _ => id
  constructor
  · rintro ⟨q, ha⟩
    exact (h.succeeds .start ha).1
  · intro ha
    obtain ⟨q, hs, -⟩ := h.expands .start ha
    exact ⟨q, hs⟩

theorem fails_iff_refuses (hm : m.Coherent) (ht : m.Grounded t) {err : ConversionError} :
    (∃ q, m.Fails convention t .start err q) ↔ m.Refuses convention t err := by
  have h : m.MemoFree convention ∅ t := memoFree_of_grounded hm ht fun _ _ _ _ _ => id
  constructor
  · rintro ⟨q, hf⟩
    exact (h.fails .start hf).1
  · intro hf
    obtain ⟨q, hs, -⟩ := h.refuses .start hf
    exact ⟨q, hs⟩

section Report

variable {s : Settings} {n k : Nat}

theorem expand_of_report (hm : m.Coherent) (ht : m.Grounded t)
    (h : (m.report s n t).result ≠ .error .exhausted) :
    ∃ k, m.expand (s.effective m.convention) k t = (m.report s n t).result := by
  obtain ⟨a, q, hy⟩ | ⟨err, q, hf⟩ := report_ends h
  · rw [report_of_yields hy]
    exact (succeeds_iff_expands hm ht).mp ⟨q, n, hy⟩
  · rw [report_of_fails hf]
    exact (fails_iff_refuses hm ht).mp ⟨q, n, hf⟩

theorem report_of_expand (hm : m.Coherent) (ht : m.Grounded t)
    (h : m.expand (s.effective m.convention) k t ≠ .error .exhausted) :
    ∃ n, (m.report s n t).result = m.expand (s.effective m.convention) k t := by
  cases hx : m.expand (s.effective m.convention) k t with
  | ok a =>
    obtain ⟨q, n, hy⟩ := (succeeds_iff_expands hm ht).mpr ⟨k, hx⟩
    exact ⟨n, by rw [report_of_yields hy]⟩
  | error halt =>
    cases halt with
    | exhausted => exact absurd hx h
    | failed err =>
      obtain ⟨q, n, hf⟩ := (fails_iff_refuses hm ht).mpr ⟨k, hx⟩
      exact ⟨n, by rw [report_of_fails hf]⟩

theorem report_eq_expand (s : Settings) (hm : m.Coherent) (ht : m.Grounded t) :
    (∀ n k, (m.report s n t).result ≠ .error .exhausted →
      m.expand (s.effective m.convention) k t ≠ .error .exhausted →
      (m.report s n t).result = m.expand (s.effective m.convention) k t) ∧
    ((∃ n, (m.report s n t).result ≠ .error .exhausted) ↔
      ∃ k, m.expand (s.effective m.convention) k t ≠ .error .exhausted) ∧
    (WellFounded m.Encloses → ∃ n, (m.report s n t).result ≠ .error .exhausted) := by
  refine ⟨fun n k hn hk => ?_, ⟨?_, ?_⟩, fun hE => ?_⟩
  · obtain ⟨j, hj⟩ := expand_of_report hm ht hn
    exact expand_unique hj rfl hn hk
  · rintro ⟨n, hn⟩
    obtain ⟨k, hk⟩ := expand_of_report hm ht hn
    exact ⟨k, hk ▸ hn⟩
  · rintro ⟨k, hk⟩
    obtain ⟨n, hn⟩ := report_of_expand hm ht hk
    exact ⟨n, hn ▸ hk⟩
  · have ends : m.Ends (s.effective m.convention) t .start := ends_of_grounded hE ht .start
    obtain ⟨a, q, n, hy⟩ | ⟨err, q, n, hf⟩ := ends
    · exact ⟨n, by simp [report_of_yields hy]⟩
    · exact ⟨n, by simp [report_of_fails hf]⟩

/-- `Map<N, List<N>>`, where `N extends Number & Cloneable`, with two handles for `N`. -/
def numbers : Table where
  types := #[⟨.typeVariable, none, some 0, some 1, [], []⟩,
    ⟨.intersection, none, none, none, [], [2, 3]⟩,
    ⟨.declared, none, some 1, none, [], []⟩,
    ⟨.declared, none, some 2, none, [], []⟩,
    ⟨.declared, none, some 4, none, [0, 5], []⟩,
    ⟨.declared, none, some 5, none, [6], []⟩,
    ⟨.typeVariable, none, some 0, some 1, [], []⟩]
  elements := #[⟨.typeParameter, "N", none⟩, ⟨.type, "Number", some 3⟩,
    ⟨.type, "Cloneable", some 3⟩, ⟨.package, "java.lang", none⟩, ⟨.type, "Map", some 6⟩,
    ⟨.type, "List", some 6⟩, ⟨.package, "java.util", none⟩]
  convention := .flatten

theorem numbers_coherent : numbers.model.Coherent := numbers.coherent (by decide)

theorem numbers_grounded (i : Nat) : numbers.model.Grounded i :=
  numbers.grounded (fun i => [2, 1, 0, 0, 4, 3, 2].getD i 0) (by decide) i

theorem numbers_encloses : WellFounded numbers.model.Encloses :=
  numbers.encloses_wellFounded (fun i => [0, 1, 1, 0, 1, 1, 0].getD i 0) (by decide)

def numbersName : TypeName :=
  let n := .typeVariable "N" [.named (.javaLang "Number"), .named (.javaLang "Cloneable")]
  .parameterized ⟨["java", "util"], [], "Map"⟩
    [n, .parameterized ⟨["java", "util"], [], "List"⟩ [n]]

theorem report_numbers : (numbers.model.report .default 10 4).result = .ok numbersName :=
  rfl

theorem numbers_report_eq_expand :
    numbers.model.Coherent ∧ numbers.model.Grounded 4 ∧
    WellFounded numbers.model.Encloses ∧
    (numbers.model.report .default 10 4).result = .ok numbersName ∧
    numbers.model.expand .flatten 10 4 = .ok numbersName ∧
    ∃ n, (numbers.model.report .default n 4).result ≠ .error .exhausted := by
  have h := report_eq_expand .default numbers_coherent (numbers_grounded 4)
  have hk : numbers.model.expand .flatten 10 4 ≠ .error .exhausted := nofun
  have hx := h.1 10 10 (by rw [report_numbers]; exact nofun) hk
  exact ⟨numbers_coherent, numbers_grounded 4, numbers_encloses,
    report_numbers, hx.symm.trans report_numbers, h.2.2 numbers_encloses⟩

end Report

end JavaTypes.TypeModel
