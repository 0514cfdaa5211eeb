import JavaTypes.Proofs.Conversion.Lockstep
import JavaTypes.Proofs.Conversion.Tables
import JavaTypes.Proofs.Conversion.Validity
import JavaTypes.Proofs.TypeName.Spread

namespace JavaTypes

def Event.isVisit : Event → Bool
  | converting _ | reused _ => true
  | _ => false

theorem Settings.filter_events (s : Settings) (reported : Convention) :
    (s.events reported).filter Event.isVisit = [] := by
  unfold Settings.events
  split <;> rfl

theorem TypeName.forall₂_spread {as bs : List TypeName}
    (h : List.Forall₂ (fun a b => a = b.spread) as bs) : as = bs.map TypeName.spread := by
  induction h with
  | nil => rfl
  | cons ha _ ih => rw [List.map_cons, ha, ih]

namespace TypeModel

open Conversion

theorem respects_spread : Respects .flatten .wrap fun a b => a = b.spread where
  primitive _ := rfl
  void := rfl
  null := rfl
  named _ := rfl
  array h := by rw [h, TypeName.spread]
  parameterized x h := by
    rw [TypeName.spread, TypeName.spreadAll_eq_map, TypeName.forall₂_spread h]
  intersection h := by
    rw [TypeName.spread, TypeName.spreadAll_eq_map, TypeName.forall₂_spread h]
  unbounded _ := rfl
  bounded x h _ hb := by
    rw [TypeName.spread_typeVariable_of_ne x fun parts hp => hb parts (List.singleton_inj.mp hp), h,
      List.map_singleton]
  bounds x h := by
    rw [Convention.bounds, Convention.bounds, TypeName.spread_typeVariable_intersection,
      TypeName.forall₂_spread h]

variable {T E : Type} [DecidableEq E]

theorem filter_events_report (m : TypeModel T E) (s : Settings) (n : Nat) (t : T) :
    (m.report s n t).events.filter Event.isVisit =
      ((m.convert (s.effective m.convention) n t).outcome .start).2.log.reverse.filter
        Event.isVisit := by
  rw [report_eq, List.filter_append, s.filter_events, List.nil_append]

theorem Corresponds.spread {f w : Except Halt TypeName}
    (h : Corresponds (fun a b => a = b.spread) f w) : f = w.map TypeName.spread := by
  cases h with
  | ok h => rw [h]; rfl
  | error => rfl

theorem flatten_spreads_wrap (m : TypeModel T E) {c c' : Convention} {s s' : Settings}
    (hf : s.effective c = .flatten) (hw : s'.effective c' = .wrap) (n : Nat) (t : T) :
    ({ m with convention := c }.report s n t).result =
      ({ m with convention := c' }.report s' n t).result.map TypeName.spread ∧
    (({ m with convention := c }.report s n t).result ≠ .error .exhausted →
      ({ m with convention := c }.report s n t).events.filter Event.isVisit =
        ({ m with convention := c' }.report s' n t).events.filter Event.isVisit) ∧
    ∀ a b, ({ m with convention := c }.report s n t).result = .ok a →
      ({ m with convention := c' }.report s' n t).result = .ok b →
      a.render = b.render ∧ a.referencedClasses = b.referencedClasses ∧
        a.primitives = b.primitives ∧
        a.typeVariables.map TypeVariable.declaration =
          b.typeVariables.map TypeVariable.declaration := by
  have hc := outcome_corresponds (Similar.of_convention m c c') respects_spread n (rfl : t = t)
  have hr : ({ m with convention := c }.report s n t).result =
      ({ m with convention := c' }.report s' n t).result.map TypeName.spread := by
    rw [report_eq, report_eq, hf, hw]
    exact hc.1.spread
  refine ⟨hr, fun hx => ?_, fun a b ha hb => ?_⟩
  · rw [report_eq, hf] at hx
    rw [filter_events_report, filter_events_report, hf, hw, hc.2 hx]
  · obtain ⟨q, hy⟩ := report_ok hb
    have hv : b.Valid := Succeeds.valid ⟨n, hy⟩
    rw [hr, hb] at ha
    cases ha
    exact ⟨b.render_spread, b.referencedClasses_spread, b.primitives_spread,
      TypeName.declarations_spread hv⟩

theorem mutualBounds_flatten_spreads_wrap :
    Settings.effective ⟨some .flatten⟩ .wrap = .flatten ∧ Settings.default.effective .wrap = .wrap ∧
    ∃ a b, (Table.mutualBounds.model.report ⟨some .flatten⟩ 10 0).result = .ok a ∧
      (Table.mutualBounds.model.report .default 10 0).result = .ok b ∧ a ≠ b ∧ a = b.spread ∧
      a.render = b.render ∧ a.referencedClasses = b.referencedClasses ∧
      a.primitives = b.primitives ∧
      a.typeVariables.map TypeVariable.declaration =
        b.typeVariables.map TypeVariable.declaration := by
  have hf : Settings.effective ⟨some .flatten⟩ .wrap = .flatten := rfl
  have hw : Settings.default.effective .wrap = .wrap := rfl
  obtain ⟨hr, -, ht⟩ := flatten_spreads_wrap Table.mutualBounds.model hf hw 10 0
  have hb : (Table.mutualBounds.model.report .default 10 0).result = .ok Table.mutualBoundsName :=
    Table.report_mutualBounds
  have ha : (Table.mutualBounds.model.report ⟨some .flatten⟩ 10 0).result =
      .ok Table.mutualBoundsName.spread := by
    change _ = (Table.mutualBounds.model.report .default 10 0).result.map TypeName.spread at hr
    rw [hb] at hr
    exact hr
  exact ⟨hf, hw, _, _, ha, hb, by decide, rfl, ht _ _ ha hb⟩

end TypeModel

end JavaTypes
