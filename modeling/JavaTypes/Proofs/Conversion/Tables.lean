import Mathlib.Data.Set.Finite.Basic
import Mathlib.Order.Interval.Set.Defs
import JavaTypes.Model.Reach
import JavaTypes.Model.Table

namespace JavaTypes.Table

def contents (t : Table) (i : Nat) : List Nat :=
  (t.typeAt i).component?.toList ++ (t.typeAt i).arguments ++ (t.typeAt i).parts

theorem typeAt_of_le (t : Table) {i : Nat} (h : t.types.size ≤ i) :
    t.typeAt i = ⟨.none, none, none, none, [], []⟩ := by
  rw [typeAt, Array.getElem?_eq_none h, Option.getD_none]

theorem elementAt_of_le (t : Table) {i : Nat} (h : t.elements.size ≤ i) :
    t.elementAt i = ⟨.other, "", none⟩ := by
  rw [elementAt, Array.getElem?_eq_none h, Option.getD_none]

theorem lt_size_of_kind (t : Table) {i : Nat} (h : t.model.kind i ≠ .none) : i < t.types.size := by
  by_contra hi
  exact h (congrArg TypeRow.kind (t.typeAt_of_le (Nat.le_of_not_lt hi)))

theorem mem_contents_of_inside (t : Table) {s i : Nat} (h : t.model.Inside s i) :
    i < t.types.size ∧ s ∈ t.contents i := by
  cases h with
  | component k h =>
    have h : (t.typeAt i).component? = some s := h
    exact ⟨t.lt_size_of_kind (by rw [k]; simp), by simp [contents, h]⟩
  | argument k h =>
    have h : s ∈ (t.typeAt i).arguments := h
    exact ⟨t.lt_size_of_kind (by rw [k]; simp), by simp [contents, h]⟩
  | part k h =>
    have h : s ∈ (t.typeAt i).parts := h
    exact ⟨t.lt_size_of_kind (by rw [k]; simp), by simp [contents, h]⟩

theorem inside_wellFounded (t : Table) (rank : Nat → Nat)
    (h : ∀ i < t.types.size, ∀ s ∈ t.contents i, rank s < rank i) :
    WellFounded t.model.Inside := by
  apply Subrelation.wf (r := InvImage (· < ·) rank) _ (InvImage.wf rank Nat.lt_wfRel.wf)
  intro s i hs
  obtain ⟨hi, hs⟩ := t.mem_contents_of_inside hs
  exact h i hi s hs

theorem encloses_wellFounded (t : Table) (rank : Nat → Nat)
    (h : ∀ i < t.elements.size, ∀ e ∈ (t.elementAt i).enclosing?, rank e < rank i) :
    WellFounded t.model.Encloses := by
  apply Subrelation.wf (r := InvImage (· < ·) rank) _ (InvImage.wf rank Nat.lt_wfRel.wf)
  intro e i he
  have he : (t.elementAt i).enclosing? = some e := he
  by_cases hi : i < t.elements.size
  · exact h i hi e he
  · rw [t.elementAt_of_le (Nat.le_of_not_lt hi)] at he
    cases he

theorem declares_finite (t : Table) : {e | t.model.Declares e}.Finite := by
  apply (((Set.finite_lt_nat t.types.size).image fun i => (t.typeAt i).element?.getD 0)).subset
  rintro e ⟨i, k, he⟩
  have he : (t.typeAt i).element? = some e := he
  exact ⟨i, t.lt_size_of_kind (by rw [k]; simp), by simp [he]⟩

theorem coherent (t : Table) (h : ∀ i < t.types.size, ∀ j < t.types.size,
    (t.typeAt i).kind = .typeVariable ∧ (t.typeAt j).kind = .typeVariable ∧
      (t.typeAt i).element? = (t.typeAt j).element? →
    (t.typeAt i).upperBound? = (t.typeAt j).upperBound?) : t.model.Coherent := by
  intro i j e ki kj hi hj
  have hi' : i < t.types.size := t.lt_size_of_kind (by rw [ki]; simp)
  have hj' : j < t.types.size := t.lt_size_of_kind (by rw [kj]; simp)
  exact h i hi' j hj' ⟨ki, kj, hi.trans hj.symm⟩

theorem injOn_elementName (t : Table) (h : ∀ i < t.types.size, ∀ j < t.types.size,
    ∀ e ∈ (t.typeAt i).element?, ∀ f ∈ (t.typeAt j).element?,
    (t.typeAt i).kind = .typeVariable ∧ (t.typeAt j).kind = .typeVariable ∧
      (t.elementAt e).name = (t.elementAt f).name → e = f) :
    Set.InjOn t.model.elementName {e | t.model.Declares e} := by
  rintro e ⟨i, ki, hi⟩ f ⟨j, kj, hj⟩ hef
  have hi' : i < t.types.size := t.lt_size_of_kind (by rw [ki]; simp)
  have hj' : j < t.types.size := t.lt_size_of_kind (by rw [kj]; simp)
  exact h i hi' j hj' e hi f hj ⟨ki, kj, hef⟩

def outgoing (t : Table) (i : Nat) : List Nat :=
  t.contents i ++ (t.typeAt i).upperBound?.toList

theorem mem_outgoing_of_leads (t : Table) {s i : Nat} (h : t.model.Leads i s) :
    i < t.types.size ∧ s ∈ t.outgoing i := by
  cases h with
  | inside h =>
    obtain ⟨hi, hs⟩ := t.mem_contents_of_inside h
    exact ⟨hi, List.mem_append_left _ hs⟩
  | bound k h =>
    have h : (t.typeAt i).upperBound? = some s := h
    exact ⟨t.lt_size_of_kind (by rw [k]; simp), by simp [outgoing, h]⟩

theorem grounded (t : Table) (rank : Nat → Nat)
    (h : ∀ i < t.types.size, ∀ s ∈ t.outgoing i, rank s < rank i) (i : Nat) :
    t.model.Grounded i := by
  apply WellFounded.apply
  apply Subrelation.wf (r := InvImage (· < ·) rank) _ (InvImage.wf rank Nat.lt_wfRel.wf)
  intro s i hs
  obtain ⟨hi, hs⟩ := t.mem_outgoing_of_leads hs
  exact h i hi s hs

/-- `A extends B` and `B extends Comparable<A> & Comparable<B>`, with two handles for `A`. -/
def mutualBounds : Table where
  types := #[⟨.typeVariable, none, some 0, some 1, [], []⟩,
    ⟨.typeVariable, none, some 1, some 2, [], []⟩,
    ⟨.intersection, none, none, none, [], [3, 4]⟩,
    ⟨.declared, none, some 2, none, [5], []⟩,
    ⟨.declared, none, some 2, none, [1], []⟩,
    ⟨.typeVariable, none, some 0, some 1, [], []⟩]
  elements := #[⟨.typeParameter, "A", none⟩, ⟨.typeParameter, "B", none⟩,
    ⟨.type, "Comparable", some 3⟩, ⟨.package, "java.lang", none⟩]
  convention := .wrap

theorem mutualBounds_coherent : mutualBounds.model.Coherent := mutualBounds.coherent (by decide)

def comparable (name : String) : TypeName :=
  .parameterized ⟨["java", "lang"], [], "Comparable"⟩ [.typeVariable name []]

def mutualBoundsName : TypeName :=
  .typeVariable "A" [.typeVariable "B" [.intersection [comparable "A", comparable "B"]]]

theorem report_mutualBounds :
    (mutualBounds.model.report .default 10 0).result = .ok mutualBoundsName :=
  rfl

/-- `Pair<A, B>`, where `A extends Comparable<B>` and `B extends Comparable<A>`. -/
def pair : Table where
  types := #[⟨.typeVariable, none, some 0, some 2, [], []⟩,
    ⟨.typeVariable, none, some 1, some 3, [], []⟩,
    ⟨.declared, none, some 2, none, [1], []⟩,
    ⟨.declared, none, some 2, none, [0], []⟩,
    ⟨.declared, none, some 4, none, [0, 1], []⟩]
  elements := #[⟨.typeParameter, "A", some 4⟩, ⟨.typeParameter, "B", some 4⟩,
    ⟨.type, "Comparable", some 3⟩, ⟨.package, "java.lang", none⟩, ⟨.type, "Pair", some 5⟩,
    ⟨.package, "com.example", none⟩]
  convention := .wrap

end JavaTypes.Table
