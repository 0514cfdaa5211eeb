import JavaTypes.Proofs.Conversion.Lockstep
import JavaTypes.Proofs.Conversion.Tables

/-!
Only the shape of a model matters. Handles that show the same of themselves, and lead to handles of
which the same is true, convert alike; it makes no difference whether one of them is shared or made
anew for each use, as long as the declarations of variables are told apart in the same way.
-/

namespace JavaTypes

namespace TypeModel

section

variable {T T' E E' : Type} {m : TypeModel T E} {m' : TypeModel T' E'} {S : T → T' → Prop}
  {U : E → E' → Prop}

theorem respects_eq (c : Convention) : Respects c c Eq where
  primitive _ := rfl
  void := rfl
  null := rfl
  named _ := rfl
  array h := by rw [h]
  parameterized x h := by
    rw [List.forall₂_eq_eq_eq] at h
    rw [h]
  intersection h := by
    rw [List.forall₂_eq_eq_eq] at h
    rw [h]
  unbounded _ := rfl
  bounded x h _ _ := by rw [h]
  bounds x h := by
    rw [List.forall₂_eq_eq_eq] at h
    rw [h]

theorem Corresponds.eq {r r' : Except Halt TypeName} (h : Corresponds Eq r r') : r = r' := by
  cases h with
  | ok h => rw [h]
  | error => rfl

variable [DecidableEq E] [DecidableEq E']

theorem Similar.report_eq {s : Settings} {t : T} {t' : T'} {n : Nat} (hm : m.Similar m' S U)
    (hc : m'.convention = m.convention) (ht : S t t')
    (hn : (m.report s n t).result ≠ .error .exhausted) : m'.report s n t' = m.report s n t := by
  obtain ⟨hr, hl⟩ := outcome_corresponds hm (respects_eq (s.effective m.convention)) n ht
  rw [TypeModel.report_eq, TypeModel.report_eq, hc, hr.eq, hl hn]

theorem report_eq_of_similar {s s' : Settings} {t : T} {t' : T'} (hm : m.Similar m' S U)
    (hc : s.effective m.convention = s'.effective m'.convention) (ht : S t t') (n : Nat) :
    (m.report s n t).result = (m'.report s' n t').result ∧
    ((m.report s n t).result ≠ .error .exhausted → ∃ visits,
      (m.report s n t).events = s.events m.convention ++ visits ∧
      (m'.report s' n t').events = s'.events m'.convention ++ visits) := by
  obtain ⟨hr, hl⟩ := outcome_corresponds hm (respects_eq (s.effective m.convention)) n ht
  rw [report_eq, report_eq, ← hc]
  refine ⟨hr.eq, fun hx => ⟨_, rfl, ?_⟩⟩
  rw [hl hx]

end

end TypeModel

namespace Table

/-- The bounds of `mutualBounds` with one handle for `A`, in another order and flattened. -/
def sharedBounds : Table where
  types := #[⟨.typeVariable, none, some 1, some 2, [], []⟩,
    ⟨.typeVariable, none, some 3, some 0, [], []⟩,
    ⟨.intersection, none, none, none, [], [3, 4]⟩,
    ⟨.declared, none, some 0, none, [1], []⟩,
    ⟨.declared, none, some 0, none, [0], []⟩]
  elements := #[⟨.type, "Comparable", some 2⟩, ⟨.typeParameter, "B", none⟩,
    ⟨.package, "java.lang", none⟩, ⟨.typeParameter, "A", none⟩]
  convention := .flatten

instance optionRelDecidable {α β : Type} (r : α → β → Prop) [∀ a b, Decidable (r a b)] :
    ∀ a b, Decidable (Option.Rel r a b)
  | none, none => isTrue .none
  | some a, some b => decidable_of_iff (r a b) ⟨.some, fun | .some h => h⟩
  | none, some _ => isFalse nofun
  | some _, none => isFalse nofun

theorem similar (t t' : Table) (S U : List (Nat × Nat))
    (hS : ∀ x ∈ S, (t.typeAt x.1).kind = (t'.typeAt x.2).kind ∧
      Option.Rel (fun i j => (i, j) ∈ S) (t.typeAt x.1).component? (t'.typeAt x.2).component? ∧
      Option.Rel (fun i j => (i, j) ∈ U) (t.typeAt x.1).element? (t'.typeAt x.2).element? ∧
      List.Forall₂ (fun i j => (i, j) ∈ S) (t.typeAt x.1).arguments (t'.typeAt x.2).arguments ∧
      Option.Rel (fun i j => (i, j) ∈ S) (t.typeAt x.1).upperBound? (t'.typeAt x.2).upperBound? ∧
      List.Forall₂ (fun i j => (i, j) ∈ S) (t.typeAt x.1).parts (t'.typeAt x.2).parts)
    (hU : ∀ x ∈ U, (t.elementAt x.1).kind = (t'.elementAt x.2).kind ∧
      (t.elementAt x.1).name = (t'.elementAt x.2).name ∧
      Option.Rel (fun i j => (i, j) ∈ U) (t.elementAt x.1).enclosing? (t'.elementAt x.2).enclosing?)
    (hUU : ∀ x ∈ U, ∀ y ∈ U, x.1 = y.1 ↔ x.2 = y.2) :
    t.model.Similar t'.model (fun i j => (i, j) ∈ S) fun i j => (i, j) ∈ U where
  kind h := (hS _ h).1
  component h := (hS _ h).2.1
  element h := (hS _ h).2.2.1
  arguments h := (hS _ h).2.2.2.1
  upperBound h := (hS _ h).2.2.2.2.1
  parts h := (hS _ h).2.2.2.2.2
  elementKind h := (hU _ h).1
  elementName h := (hU _ h).2.1
  enclosing h := (hU _ h).2.2
  one_to_one he hf _ _ _ _ := hUU _ he _ hf

theorem mutualBounds_similar_sharedBounds :
    mutualBounds.model.Similar sharedBounds.model
      (fun i j => (i, j) ∈ [(0, 1), (1, 0), (2, 2), (3, 3), (4, 4), (5, 1)])
      fun i j => (i, j) ∈ [(0, 3), (1, 1), (2, 0), (3, 2)] :=
  similar mutualBounds sharedBounds _ _ (by decide) (by decide) (by decide)

end Table

theorem TypeModel.mutualBounds_report_eq_sharedBounds :
    (∃ S U, Table.mutualBounds.model.Similar Table.sharedBounds.model S U ∧ S 0 1) ∧
    Settings.default.effective .wrap = Settings.effective ⟨some .wrap⟩ .flatten ∧
    (Table.mutualBounds.model.report .default 10 0).result = .ok Table.mutualBoundsName ∧
    (Table.sharedBounds.model.report ⟨some .wrap⟩ 10 1).result = .ok Table.mutualBoundsName ∧
    ∃ visits, (Table.mutualBounds.model.report .default 10 0).events = visits ∧
      (Table.sharedBounds.model.report ⟨some .wrap⟩ 10 1).events =
        .overridden .flatten .wrap :: visits := by
  have hc : Settings.default.effective Table.mutualBounds.model.convention =
    Settings.effective ⟨some .wrap⟩ Table.sharedBounds.model.convention := rfl
  have hm := Table.mutualBounds_similar_sharedBounds
  have ht : (0, 1) ∈ [(0, 1), (1, 0), (2, 2), (3, 3), (4, 4), (5, 1)] := by decide
  obtain ⟨hr, he⟩ := report_eq_of_similar hm hc ht 10
  have hx : (Table.mutualBounds.model.report .default 10 0).result ≠ .error .exhausted := by
    rw [Table.report_mutualBounds]
    simp
  exact ⟨⟨_, _, hm, ht⟩, hc, Table.report_mutualBounds, hr ▸ Table.report_mutualBounds, he hx⟩

end JavaTypes
