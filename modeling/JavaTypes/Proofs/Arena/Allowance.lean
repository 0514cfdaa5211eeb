import Mathlib.Order.Interval.Set.Nat
import JavaTypes.Proofs.Arena.Orders
import JavaTypes.Proofs.Conversion.Termination

namespace JavaTypes.Arena

open TypeModel

variable {a : Arena} {convention : Convention} {p q : Progress ElementId} {s t : TypeId}
  {e : ElementId}

theorem setOf_hasElement (a : Arena) :
    {e | a.HasElement e} = ElementId.mk '' Set.Iio a.elements.size := by
  ext e
  constructor
  · intro h
    exact ⟨e.index, h, rfl⟩
  · rintro ⟨i, hi, rfl⟩
    exact hi

theorem hasElement_finite (a : Arena) : {e | a.HasElement e}.Finite := by
  rw [setOf_hasElement]
  exact (Set.finite_Iio _).image _

theorem ncard_hasElement (a : Arena) : {e | a.HasElement e}.ncard = a.elements.size := by
  rw [setOf_hasElement, Set.ncard_image_of_injective _ fun _ _ => ElementId.mk.inj,
    Set.ncard_Iio_nat]

theorem surroundings_ne_exhausted (ha : a.Closed) (own : String) {n : Nat}
    (hn : ∀ f, a.model.enclosing? e = some f → f.index + 1 < n) (hpos : 0 < n) :
    a.model.surroundings own n (a.model.enclosing? e) ≠ .error .exhausted := by
  induction n generalizing e with
  | zero => omega
  | succ n ih =>
    apply surroundings_ends
    intro f he
    have hf := hn f he
    apply ih
    · intro g hg
      have hlt := ha.index_lt_of_encloses hg
      omega
    · omega

namespace Closed

variable (ha : a.Closed)
include ha

theorem exists_nameAt {n : Nat} (hn : a.elements.size < n) (e : ElementId) :
    ∃ r, a.model.NameAt n e r := by
  apply NameAt.total
  apply surroundings_ne_exhausted ha _ _ (by omega)
  intro f hf
  obtain ⟨d, hd, -⟩ := Option.bind_eq_some_iff.mp hf
  have he : e.index < a.elements.size := hasElement_of_element? hd
  have hlt := ha.index_lt_of_encloses hf
  omega

theorem declares_subset : {e | a.model.Declares e} ⊆ {e | a.HasElement e} := by
  rintro e ⟨t, -, he⟩
  exact ha.hasElement he

theorem declares_finite : {e | a.model.Declares e}.Finite :=
  a.hasElement_finite.subset ha.declares_subset

theorem ncard_unmet_le_size (p : Progress ElementId) :
    (a.model.unmet p).ncard ≤ a.elements.size := by
  rw [← ncard_hasElement]
  exact Set.ncard_le_ncard (fun e he => ha.declares_subset he.1) a.hasElement_finite

theorem endsAt_of_le {n : Nat} (ht : a.HasType t)
    (hn : (a.model.unmet p).ncard * (a.types.size + 1) + t.index + a.elements.size + 2 ≤ n) :
    a.model.EndsAt convention n t p := by
  induction n generalizing t p with
  | zero => omega
  | succ n ih =>
    apply endsAt_succ (ha.exists_nameAt (by omega))
    · -- inside `t` the index is smaller and no variable has been forgotten
      intro s hs q hq
      have hlt := ha.index_lt_of_inside hs
      have hmul := Nat.mul_le_mul_right (a.types.size + 1) (ncard_unmet_le ha.declares_finite hq)
      exact ih (ha.hasType_of_inside hs) (by omega)
    · -- the bound may have any index, and what is left for the variable pays for that
      intro e b k he hv hb s hs q hq
      have hbt : b.index < a.types.size := ha.hasType_of_upperBound? hb
      have hst : s.index ≤ b.index := by
        obtain rfl | hs := hs
        · exact Nat.le_refl _
        · exact Nat.le_of_lt (ha.index_lt_of_inside hs)
      have hlt := unmet_remember_lt ha.declares_finite ⟨t, k, he⟩ hv
        (.unbounded (a.model.elementName e))
      have hle := ncard_unmet_le ha.declares_finite hq
      have hmul : ((a.model.unmet q).ncard + 1) * (a.types.size + 1) ≤
          (a.model.unmet p).ncard * (a.types.size + 1) :=
        Nat.mul_le_mul_right _ (by omega)
      rw [Nat.succ_mul] at hmul
      exact ih (Nat.lt_of_le_of_lt hst hbt) (by omega)

theorem report_ne_exhausted (settings : Settings) (t : TypeId) :
    (a.report settings t).result ≠ .error .exhausted := by
  apply EndsAt.report_ne_exhausted
  by_cases ht : a.HasType t
  · apply ha.endsAt_of_le ht
    have hlt : t.index < a.types.size := ht
    have hmul := Nat.mul_le_mul_right (a.types.size + 1) (ha.ncard_unmet_le_size .start)
    rw [allowance, Nat.mul_comm (a.types.size + 1), Nat.succ_mul]
    omega
  · have k : a.model.kind t = .none := by
      by_contra hk
      obtain ⟨d, hd⟩ := exists_type?_of_kind hk
      exact ht (hasType_of_type? hd)
    exact endsAt_unsupported (by rw [k]; rfl)

end Closed

end JavaTypes.Arena
