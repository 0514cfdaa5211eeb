import JavaTypes.Proofs.Arena.Allowance
import JavaTypes.Proofs.Conversion.Handles
import JavaTypes.Proofs.Conversion.MemoFree

/-!
A larger arena changes nothing for what is there already. The part that was there is a part of
either model, and a conversion never leaves it.
-/

namespace JavaTypes.Arena

open TypeModel

variable {a b : Arena} {settings : Settings} {convention : Convention} {t : TypeId}

theorem optionRel_kept {α : Type} {P : α → Prop} {o : Option α} (h : ∀ x, o = some x → P x) :
    Option.Rel (fun x y => x = y ∧ P x) o o := by
  cases o with
  | none => exact .none
  | some x => exact .some ⟨rfl, h x rfl⟩

namespace Extends

theorem type?_eq (h : b.Extends a) (ht : a.HasType t) : b.type? t = a.type? t := by
  obtain ⟨d, hd⟩ := ht.exists_type?
  rw [hd, h.type hd]

theorem element?_eq {e : ElementId} (h : b.Extends a) (he : a.HasElement e) :
    b.element? e = a.element? e := by
  obtain ⟨d, hd⟩ := he.exists_element?
  rw [hd, h.element hd]

theorem upperBound?_eq (h : b.Extends a) (ha : a.Closed) (ht : a.HasType t) :
    b.model.upperBound? t = a.model.upperBound? t := by
  obtain ⟨d, hd⟩ := ht.exists_type?
  cases d with
  | typeVariable e =>
    have he := h.element?_eq (ha.element hd rfl)
    simp [model, parameter?, hd, h.type hd, he]
  | _ => simp [model, parameter?, hd, h.type hd]

theorem similar (h : b.Extends a) (ha : a.Closed) : a.model.Similar b.model
    (fun s t => s = t ∧ a.HasType s) fun e f => e = f ∧ a.HasElement e where
  kind := by
    rintro t _ ⟨rfl, ht⟩
    simp only [model, h.type?_eq ht]
  component := by
    rintro t _ ⟨rfl, ht⟩
    obtain ⟨d, hd⟩ := ht.exists_type?
    rw [component?_of_type? hd, component?_of_type? (h.type hd)]
    exact optionRel_kept fun s hs =>
      ha.hasType_of_mem hd (TypeData.mem_contents_of_component? hs)
  element := by
    rintro t _ ⟨rfl, ht⟩
    obtain ⟨d, hd⟩ := ht.exists_type?
    rw [modelElement?_of_type? hd, modelElement?_of_type? (h.type hd)]
    exact optionRel_kept fun e he => ha.element hd he
  arguments := by
    rintro t _ ⟨rfl, ht⟩
    obtain ⟨d, hd⟩ := ht.exists_type?
    rw [arguments_of_type? hd, arguments_of_type? (h.type hd)]
    exact List.forall₂_same.mpr fun s hs =>
      ⟨rfl, ha.hasType_of_mem hd (d.arguments_subset_contents hs)⟩
  upperBound := by
    rintro t _ ⟨rfl, ht⟩
    rw [h.upperBound?_eq ha ht]
    exact optionRel_kept fun s hs => ha.hasType_of_upperBound? hs
  parts := by
    rintro t _ ⟨rfl, ht⟩
    obtain ⟨d, hd⟩ := ht.exists_type?
    rw [parts_of_type? hd, parts_of_type? (h.type hd)]
    exact List.forall₂_same.mpr fun s hs =>
      ⟨rfl, ha.hasType_of_mem hd (d.parts_subset_contents hs)⟩
  elementKind := by
    rintro e _ ⟨rfl, he⟩
    simp only [model, h.element?_eq he]
  elementName := by
    rintro e _ ⟨rfl, he⟩
    simp only [model, h.element?_eq he]
  enclosing := by
    rintro e _ ⟨rfl, he⟩
    simp only [model, h.element?_eq he]
    apply optionRel_kept
    intro f hf
    exact Nat.lt_trans (ha.index_lt_of_encloses hf) he
  one_to_one := by
    rintro e _ f _ ⟨rfl, -⟩ ⟨rfl, -⟩ _ _ _ _
    rfl

theorem report_eq (h : b.Extends a) (ha : a.Closed) (ht : a.HasType t) {n : Nat}
    (hn : (a.model.report settings n t).result ≠ .error .exhausted) :
    b.model.report settings n t = a.model.report settings n t :=
  (h.similar ha).report_eq h.convention ⟨rfl, ht⟩ hn

end Extends

/-- The conversion of the type has this outcome, and no path of bounds and contents that starts
there goes on for ever. -/
structure Denotes (a : Arena) (convention : Convention) (t : TypeId)
    (r : Except ConversionError TypeName) : Prop where
  hasType : a.HasType t
  grounded : a.model.Grounded t
  expand : ∃ n, a.model.expand convention n t = r.mapError .failed

namespace Denotes

variable {r : Except ConversionError TypeName}

theorem report_eq (h : a.Denotes (settings.effective a.convention) t r) (ha : a.Closed) :
    (a.report settings t).result = r.mapError .failed := by
  have hr := ha.report_ne_exhausted settings t
  obtain ⟨n, hn⟩ := expand_of_report a.coherent h.grounded hr
  obtain ⟨k, hk⟩ := h.expand
  exact expand_unique hn hk hr (by cases r <;> nofun)

theorem of_extends (h : a.Denotes convention t r) (ha : a.Closed) (hb : b.Extends a) :
    b.Denotes convention t r := by
  have hg := (hb.similar ha).grounded ⟨rfl, h.hasType⟩ h.grounded
  refine ⟨hb.hasType h.hasType, hg, ?_⟩
  obtain ⟨k, hk⟩ := h.expand
  have hx : a.model.expand convention k t ≠ .error .exhausted := by
    rw [hk]
    cases r <;> nofun
  obtain ⟨n, hn⟩ := report_of_expand (s := ⟨some convention⟩) a.coherent h.grounded hx
  have hr : (a.model.report ⟨some convention⟩ n t).result ≠ .error .exhausted := hn ▸ hx
  have hbr := hb.report_eq ha h.hasType hr
  obtain ⟨j, hj⟩ := expand_of_report b.coherent hg (hbr ▸ hr)
  refine ⟨j, ?_⟩
  calc b.model.expand convention j t
      = (b.model.report ⟨some convention⟩ n t).result := hj
    _ = (a.model.report ⟨some convention⟩ n t).result := by rw [hbr]
    _ = a.model.expand convention k t := hn
    _ = r.mapError .failed := hk

end Denotes

def DenotesAll (a : Arena) (convention : Convention) : List TypeId → List TypeName → Prop :=
  List.Forall₂ fun t x => a.Denotes convention t (.ok x)

namespace DenotesAll

variable {ts : List TypeId} {xs : List TypeName}

theorem exists_denotes (h : a.DenotesAll convention ts xs) (ht : t ∈ ts) :
    ∃ x, a.Denotes convention t (.ok x) := by
  obtain ⟨x, -, hx⟩ := exists_left_of_mem h.flip ht
  exact ⟨x, hx⟩

theorem hasType (h : a.DenotesAll convention ts xs) : ∀ t ∈ ts, a.HasType t := by
  intro t ht
  obtain ⟨x, hx⟩ := h.exists_denotes ht
  exact hx.hasType

theorem grounded (h : a.DenotesAll convention ts xs) : ∀ t ∈ ts, a.model.Grounded t := by
  intro t ht
  obtain ⟨x, hx⟩ := h.exists_denotes ht
  exact hx.grounded

theorem expands (h : a.DenotesAll convention ts xs) :
    List.Forall₂ (a.model.Expands convention) ts xs :=
  h.imp fun _ _ hx => hx.expand

theorem of_extends (h : a.DenotesAll convention ts xs) (ha : a.Closed) (hb : b.Extends a) :
    b.DenotesAll convention ts xs :=
  h.imp fun _ _ hx => hx.of_extends ha hb

end DenotesAll

end JavaTypes.Arena
