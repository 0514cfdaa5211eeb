import Mathlib.Data.List.Destutter
import JavaTypes.ClassName.Order
import JavaTypes.Proofs.ClassName.CanonicalName

namespace JavaTypes

section Repetitions

variable {α : Type} [DecidableEq α]

theorem eraseReps_loop_eq (a : α) (l acc : List α) :
    List.eraseRepsBy.loop (· == ·) a l acc = acc.reverse ++ List.destutter' (· ≠ ·) a l := by
  induction l generalizing a acc with
  | nil => simp [List.eraseRepsBy.loop]
  | cons b l ih =>
    by_cases h : a = b
    · simp [List.eraseRepsBy.loop, List.destutter', ih, h]
    · have hb : (a == b) = false := beq_false_of_ne h
      simp [List.eraseRepsBy.loop, List.destutter', ih, h, hb]

theorem eraseReps_eq_destutter (l : List α) : l.eraseReps = l.destutter (· ≠ ·) := by
  cases l with
  | nil => rfl
  | cons a l => exact eraseReps_loop_eq a l []

end Repetitions

namespace ClassName

theorem cmp_eq_compareLex : cmp = compareLex (compareOn canonicalName) (compareOn packageName) :=
  rfl

instance : Std.TransCmp cmp := cmp_eq_compareLex ▸ inferInstance

def Sorted (cs : List ClassName) : Prop := cs.Pairwise fun a b => (cmp a b).isLE = true

section Valid

variable {a b : ClassName} (ha : a.Valid) (hb : b.Valid)
include ha hb

theorem Valid.eq_of_names (hc : a.canonicalName = b.canonicalName)
    (hp : a.packageName = b.packageName) : a = b := by
  have hpackage : a.package = b.package := by
    rw [← ha.packageSegments_packageName, hp, hb.packageSegments_packageName]
  have hsegments : a.package ++ a.simpleNames = b.package ++ b.simpleNames := by
    rw [← ha.segments_canonicalName, hc, hb.segments_canonicalName]
  rw [hpackage] at hsegments
  have hsimple : a.enclosing ++ [a.simpleName] = b.enclosing ++ [b.simpleName] :=
    List.append_cancel_left hsegments
  obtain ⟨henclosing, hname⟩ := List.append_inj' hsimple rfl
  cases a
  cases b
  cases hpackage
  cases henclosing
  cases hname
  rfl

theorem cmp_eq_eq_iff : cmp a b = .eq ↔ a = b := by
  constructor
  · intro h
    obtain ⟨hc, hp⟩ := Ordering.then_eq_eq.mp h
    exact ha.eq_of_names hb (Std.compare_eq_iff_eq.mp hc) (Std.compare_eq_iff_eq.mp hp)
  · rintro rfl
    exact Std.ReflCmp.compare_self

theorem eq_of_isLE (h : (cmp a b).isLE = true) (h' : (cmp b a).isLE = true) : a = b :=
  (cmp_eq_eq_iff ha hb).mp (Std.OrientedCmp.isLE_antisymm h h')

end Valid

theorem isLE_total (a b : ClassName) : ((cmp a b).isLE || (cmp b a).isLE) = true := by
  have h : cmp b a = (cmp a b).swap := Std.OrientedCmp.eq_swap
  rw [h]
  cases cmp a b <;> rfl

theorem sort_perm (cs : List ClassName) : (sort cs).Perm cs := List.mergeSort_perm cs _

theorem sort_sorted (cs : List ClassName) : Sorted (sort cs) :=
  List.pairwise_mergeSort (fun _ _ _ => Std.TransCmp.isLE_trans) isLE_total cs

section Lists

variable {cs ds : List ClassName} (hv : ∀ c ∈ cs, c.Valid)
include hv

theorem sort_valid : ∀ c ∈ sort cs, c.Valid := by
  intro c hc
  exact hv c ((sort_perm cs).mem_iff.mp hc)

theorem Sorted.eq_of_perm (hc : Sorted cs) (hd : Sorted ds) (h : cs.Perm ds) : cs = ds := by
  apply List.Perm.eq_of_pairwise _ hc hd h
  intro a b ha hb hab hba
  exact eq_of_isLE (hv a ha) (hv b (h.mem_iff.mpr hb)) hab hba

theorem sort_eq_of_perm (h : cs.Perm ds) : sort cs = sort ds := by
  have hs : (sort cs).Perm (sort ds) := (sort_perm cs).trans (h.trans (sort_perm ds).symm)
  exact (sort_sorted cs).eq_of_perm (sort_valid hv) (sort_sorted ds) hs

theorem Sorted.eraseReps_eq_dedup (h : Sorted cs) : cs.eraseReps = cs.dedup := by
  let le (a b : ClassName) : Prop := a.Valid ∧ b.Valid ∧ (cmp a b).isLE = true
  have hle : Std.Antisymm le := ⟨fun _ _ hab hba => eq_of_isLE hab.1 hab.2.1 hab.2.2 hba.2.2⟩
  have hp : cs.Pairwise le := List.Pairwise.imp_of_mem (fun ha hb hab => ⟨hv _ ha, hv _ hb, hab⟩) h
  rw [eraseReps_eq_destutter, hp.destutter_eq_dedup]

theorem count_sortDistinct (c : ClassName) :
    (sortDistinct cs).count c = if c ∈ cs then 1 else 0 := by
  rw [sortDistinct, (sort_sorted cs).eraseReps_eq_dedup (sort_valid hv), List.count_dedup]
  simp only [(sort_perm cs).mem_iff]

end Lists

theorem sortDistinct_sublist (cs : List ClassName) : (sortDistinct cs).Sublist (sort cs) := by
  rw [sortDistinct, eraseReps_eq_destutter]
  exact List.destutter_sublist _ _

theorem cmp_orders :
    (∀ a b : ClassName, a.Valid → b.Valid → (cmp a b = .eq ↔ a = b)) ∧
    (∀ a b, cmp b a = (cmp a b).swap) ∧
    (∀ a b c o, cmp a b = o → cmp b c = o → cmp a c = o) ∧
    (∀ a b c, (cmp a b).isLE = true → (cmp b c).isLE = true → (cmp a c).isLE = true) ∧
    (∀ cs, (sort cs).Perm cs ∧ Sorted (sort cs) ∧ (sortDistinct cs).Sublist (sort cs)) ∧
    (∀ cs ds, (∀ c ∈ cs, c.Valid) → cs.Perm ds → sort cs = sort ds) ∧
    ∀ cs, (∀ c ∈ cs, c.Valid) → ∀ c, (sortDistinct cs).count c = if c ∈ cs then 1 else 0 := by
  refine ⟨fun a b => cmp_eq_eq_iff, fun a b => Std.OrientedCmp.eq_swap, ?_,
    fun a b c => Std.TransCmp.isLE_trans, ?_, fun cs ds => sort_eq_of_perm,
    fun cs => count_sortDistinct⟩
  · intro a b c o hab hbc
    cases o with
    | lt => exact Std.TransCmp.lt_trans hab hbc
    | eq => exact Std.TransCmp.eq_trans hab hbc
    | gt => exact Std.TransCmp.gt_trans hab hbc
  · intro cs
    exact ⟨sort_perm cs, sort_sorted cs, sortDistinct_sublist cs⟩

def capitalOuter : ClassName := ⟨["a"], ["B"], "C"⟩

theorem packageEnds_ordered :
    capitalOuter.Valid ∧ capitalPackage.Valid ∧
      capitalOuter.canonicalName = capitalPackage.canonicalName ∧
      cmp capitalOuter capitalPackage ≠ .eq ∧
      sort [capitalPackage, capitalOuter, capitalPackage] =
        sort [capitalPackage, capitalPackage, capitalOuter] ∧
      (sortDistinct [capitalPackage, capitalOuter, capitalPackage]).count capitalPackage = 1 := by
  obtain ⟨heq, -, -, -, -, hsort, hcount⟩ := cmp_orders
  have ho : capitalOuter.Valid := by decide
  have hp : capitalPackage.Valid := by decide
  have hv : ∀ c ∈ [capitalPackage, capitalOuter, capitalPackage], c.Valid := by
    simp [hp, ho]
  refine ⟨ho, hp, rfl, ?_, hsort _ _ hv (by decide), hcount _ hv capitalPackage⟩
  intro h
  exact absurd ((heq _ _ ho hp).mp h) (by decide)

end ClassName

end JavaTypes
