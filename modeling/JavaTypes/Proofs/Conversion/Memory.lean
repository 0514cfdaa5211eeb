import JavaTypes.Proofs.Conversion.Run

namespace JavaTypes

def Progress.Extends {E : Type} [DecidableEq E] (q p : Progress E) : Prop :=
  ∀ e v, p.memo.get? e = some v → q.memo.get? e = some v

namespace Progress.Extends

variable {E : Type} [DecidableEq E] {p q r : Progress E}

theorem refl (p : Progress E) : p.Extends p := fun _ _ h => h

theorem trans (hq : r.Extends q) (hp : q.Extends p) : r.Extends p :=
  fun e v h => hq e v (hp e v h)

theorem of_met {kind : TypeKind} (h : q.Extends (p.met kind)) : q.Extends p := h

theorem remember (p : Progress E) {e : E} (h : p.memo.get? e = none) (v : TypeVariable) :
    (p.remember e v).Extends p := by
  intro f w hw
  have hne : e ≠ f := by
    rintro rfl
    rw [h] at hw
    cases hw
  rw [Progress.remember_get?, if_neg hne, hw]

theorem overwrite {e : E} {v w : TypeVariable} (h : p.memo.get? e = none)
    (hq : q.Extends (p.remember e v)) : (q.remember e w).Extends p := by
  intro f u hu
  have hne : e ≠ f := by
    rintro rfl
    rw [h] at hu
    cases hu
  rw [Progress.remember_get?, if_neg hne]
  exact hq f u (by rw [Progress.remember_get?, if_neg hne, hu])

end Progress.Extends

theorem Each.extends {E T : Type} [DecidableEq E]
    {R : T → Progress E → TypeName → Progress E → Prop} {ts : List T} {as : List TypeName}
    {p q : Progress E} (h : Each R ts p as q) (hR : ∀ {t p a q}, R t p a q → q.Extends p) :
    q.Extends p :=
  h.relates .refl (fun hq hr => hr.trans hq) hR

namespace TypeModel

variable {T E : Type} [DecidableEq E] {m : TypeModel T E} {convention : Convention}

theorem Step.extends {R : T → Progress E → TypeName → Progress E → Prop}
    {N : E → Except ConversionError ClassName → Prop} {t : T} {a : TypeName} {p q : Progress E}
    (h : m.Step R N convention t p a q) (hR : ∀ {t p a q}, R t p a q → q.Extends p) :
    q.Extends p := by
  cases h with
  | leaf => exact .refl p
  | array _ _ hs => exact (hR hs).of_met
  | applied _ _ _ _ hs => exact (hs.extends hR).of_met
  | parts _ hs => exact (hs.1.extends hR).of_met
  | known => exact .refl p
  | fresh _ _ hv hs => exact .overwrite hv (hs.relates .refl (fun hq hr => hr.trans hq) hR)

theorem Succeeds.extends {t : T} {a : TypeName} {p q : Progress E}
    (h : m.Succeeds convention t p a q) : q.Extends p :=
  h.induct (P := fun _ p _ q => q.Extends p) fun h => h.extends id

end TypeModel

end JavaTypes
