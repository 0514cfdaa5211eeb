import JavaTypes.Proofs.Arena.InRange

namespace JavaTypes.Arena

open TypeModel

variable {a b : Arena} {settings : Settings} {s t v : TypeId} {e f : ElementId} {name : String}
  {owner : ElementId} {old : TypeId}

/-- `b` answers as `a` does about the handles that `a` has, apart from these upper bounds. -/
structure AnswersAs (b a : Arena) (upper : TypeId → Option TypeId) : Prop where
  kind {t : TypeId} : a.HasType t → b.model.kind t = a.model.kind t
  component? {t : TypeId} : a.HasType t → b.model.component? t = a.model.component? t
  element? {t : TypeId} : a.HasType t → b.model.element? t = a.model.element? t
  arguments {t : TypeId} : a.HasType t → b.model.arguments t = a.model.arguments t
  upperBound? {t : TypeId} : a.HasType t → b.model.upperBound? t = upper t
  parts {t : TypeId} : a.HasType t → b.model.parts t = a.model.parts t
  elementKind {e : ElementId} : a.HasElement e → b.model.elementKind e = a.model.elementKind e
  elementName {e : ElementId} : a.HasElement e → b.model.elementName e = a.model.elementName e
  enclosing? {e : ElementId} : a.HasElement e → b.model.enclosing? e = a.model.enclosing? e
  convention : b.model.convention = a.model.convention

theorem Extends.answersAs (h : b.Extends a) (ha : a.Closed) :
    b.AnswersAs a a.model.upperBound? where
  kind ht := by simp only [model, h.type?_eq ht]
  component? ht := by simp only [model, h.type?_eq ht]
  element? ht := by simp only [model, h.type?_eq ht]
  arguments ht := by simp only [model, h.type?_eq ht]
  upperBound? := h.upperBound?_eq ha
  parts ht := by simp only [model, h.type?_eq ht]
  elementKind he := by simp only [model, h.element?_eq he]
  elementName he := by simp only [model, h.element?_eq he]
  enclosing? he := by simp only [model, h.element?_eq he]
  convention := h.convention

theorem extends_of_creates (h : Relation.ReflTransGen Creates a b) : b.Extends a := by
  induction h with
  | refl => exact .refl a
  | tail _ hs ih => exact hs.grows.extends.trans ih

theorem Reachable.creates (ha : a.Reachable) (h : Relation.ReflTransGen Creates a b) :
    b.Reachable :=
  ha.steps (Relation.ReflTransGen.mono (fun _ _ => .creates) _ _ h)

theorem Extends.arenaReport_eq (h : b.Extends a) (ha : a.Closed) (hb : b.Closed)
    (ht : a.HasType t) : b.report settings t = a.report settings t := by
  have hx := ha.report_ne_exhausted settings t
  have hm : b.model.report settings _ t = a.report settings t := h.report_eq ha ht hx
  obtain hle | hle := Nat.le_total (allowance a.types.size a.elements.size)
    (allowance b.types.size b.elements.size)
  · rw [← hm] at hx ⊢
    exact report_mono hx hle
  · rw [← hm]
    exact (report_mono (hb.report_ne_exhausted settings t) hle).symm

section Rebind

theorem exists_of_mem_arguments (h : s ∈ a.model.arguments t) :
    ∃ d, a.type? t = some d ∧ s ∈ d.arguments := by
  cases hd : a.type? t with
  | none => simp [model, hd] at h
  | some d =>
    rw [arguments_of_type? hd] at h
    exact ⟨d, rfl, h⟩

theorem exists_of_mem_parts (h : s ∈ a.model.parts t) :
    ∃ d, a.type? t = some d ∧ s ∈ d.parts := by
  cases hd : a.type? t with
  | none => simp [model, hd] at h
  | some d =>
    rw [parts_of_type? hd] at h
    exact ⟨d, rfl, h⟩

theorem inside_of_contents {d : TypeData} (ht : a.type? t = some d) (hs : s ∈ d.contents) :
    a.model.Inside s t := by
  have k := kind_of_type? ht
  cases d with
  | array component =>
    cases List.mem_singleton.mp hs
    exact .component k (component?_of_type? ht)
  | declared e arguments => exact .argument k ((arguments_of_type? ht).symm ▸ hs)
  | intersection parts => exact .part k ((parts_of_type? ht).symm ▸ hs)
  | _ => cases hs

def Avoids (a : Arena) (e : ElementId) (t : TypeId) : Prop :=
  ∀ u, a.model.Reaches t u → a.parameter? u ≠ some e

theorem Avoids.visits (h : a.Avoids e t) (hs : a.model.Visits t s) : a.Avoids e s :=
  fun u hu => h u (.head hs hu)

theorem parameter?_eq_some_iff :
    a.parameter? t = some e ↔ a.type? t = some (.typeVariable e) := by
  unfold parameter?
  constructor
  · intro h
    split at h
    next ht =>
      cases h
      exact ht
    next => cases h
  · intro h
    rw [h]

theorem avoids_of_isObject (h : a.model.IsObject t) : a.Avoids e t := by
  intro u hu hp
  obtain rfl | ⟨s, hs, -⟩ := hu.cases_head
  · have k := kind_of_type? (parameter?_eq_some_iff.mp hp)
    rw [h.1] at k
    cases k
  · cases hs with
    | inside hs => exact h.no_leads (.inside hs)
    | bound k hs => exact h.no_leads (.bound k hs)

theorem Avoids.upperBound? (h : a.Avoids e t) (hs : a.model.upperBound? t = some s) :
    a.Avoids e s := by
  by_cases ho : a.model.IsObject s
  · exact avoids_of_isObject ho
  · obtain ⟨f, _, ht, -⟩ := exists_of_upperBound? hs
    exact h.visits (.bound (kind_of_type? ht) hs ho)

theorem Avoids.contents {d : TypeData} (h : a.Avoids e t) (ht : a.type? t = some d) :
    ∀ s ∈ d.contents, a.Avoids e s :=
  fun _ hs => h.visits (.inside (inside_of_contents ht hs))

theorem answer_setElement {β : Type} (ask : Option ElementData → β) {d d' : ElementData}
    (he : a.element? e = some d) (hd : ask (some d') = ask (some d)) :
    ask ((a.setElement e d').element? f) = ask (a.element? f) := by
  rw [element?_setElement (hasElement_of_element? he)]
  split
  next h =>
    subst h
    rw [he, hd]
  next => rfl

section Parameter

variable (he : a.element? e = some (.typeParameter name owner old))
include he

theorem upperBound?_setElement :
    (a.setElement e (.typeParameter name owner s)).model.upperBound? t =
      if a.parameter? t = some e then some s else a.model.upperBound? t := by
  have hp : (a.setElement e (.typeParameter name owner s)).parameter? t = a.parameter? t := rfl
  simp only [model, hp]
  cases a.parameter? t with
  | none => rfl
  | some f =>
    simp only [Option.bind_some, element?_setElement (hasElement_of_element? he), Option.some.injEq]
    by_cases hf : f = e
    · rw [if_pos hf, if_pos hf]
    · rw [if_neg hf, if_neg hf]

theorem elementKind_setElement :
    (a.setElement e (.typeParameter name owner s)).model.elementKind f = a.model.elementKind f :=
  answer_setElement (fun d => (d.map ElementData.kind).getD .other) he rfl

theorem elementName_setElement :
    (a.setElement e (.typeParameter name owner s)).model.elementName f = a.model.elementName f :=
  answer_setElement (fun d => (d.map ElementData.name).getD "") he rfl

theorem enclosing?_setElement :
    (a.setElement e (.typeParameter name owner s)).model.enclosing? f = a.model.enclosing? f :=
  answer_setElement (fun d => d.bind ElementData.enclosing?) he rfl

theorem answersAs_setElement : (a.setElement e (.typeParameter name owner s)).AnswersAs a
    fun t => if a.parameter? t = some e then some s else a.model.upperBound? t where
  kind _ := rfl
  component? _ := rfl
  element? _ := rfl
  arguments _ := rfl
  upperBound? _ := upperBound?_setElement he
  parts _ := rfl
  elementKind _ := elementKind_setElement he
  elementName _ := elementName_setElement he
  enclosing? _ := enclosing?_setElement he
  convention := rfl

theorem similar_setElement : a.model.Similar (a.setElement e (.typeParameter name owner s)).model
    (fun t u => t = u ∧ a.Avoids e t) Eq where
  kind := by
    rintro t _ ⟨rfl, -⟩
    rfl
  component := by
    rintro t _ ⟨rfl, ht⟩
    refine optionRel_kept fun s hs => ?_
    obtain ⟨d, hd, hc⟩ := Option.bind_eq_some_iff.mp hs
    exact ht.contents hd s (TypeData.mem_contents_of_component? hc)
  element := by
    rintro t _ ⟨rfl, -⟩
    exact optionRel_eq _
  arguments := by
    rintro t _ ⟨rfl, ht⟩
    refine List.forall₂_same.mpr fun s hs => ⟨rfl, ?_⟩
    obtain ⟨d, hd, hs⟩ := exists_of_mem_arguments hs
    exact ht.contents hd s (d.arguments_subset_contents hs)
  upperBound := by
    rintro t _ ⟨rfl, ht⟩
    rw [upperBound?_setElement he, if_neg (ht t .refl)]
    exact optionRel_kept fun s hs => ht.upperBound? hs
  parts := by
    rintro t _ ⟨rfl, ht⟩
    refine List.forall₂_same.mpr fun s hs => ⟨rfl, ?_⟩
    obtain ⟨d, hd, hs⟩ := exists_of_mem_parts hs
    exact ht.contents hd s (d.parts_subset_contents hs)
  elementKind := by
    rintro f _ rfl
    exact (elementKind_setElement he).symm
  elementName := by
    rintro f _ rfl
    exact (elementName_setElement he).symm
  enclosing := by
    rintro f _ rfl
    rw [enclosing?_setElement he]
    exact optionRel_eq _
  one_to_one := by
    rintro e _ f _ rfl rfl _ _ _ _
    rfl

theorem report_setElement (ha : a.Closed) (ht : a.Avoids e t) :
    (a.setElement e (.typeParameter name owner s)).report settings t = a.report settings t := by
  have hsize : (a.setElement e (.typeParameter name owner s)).elements.size = a.elements.size :=
    Array.size_setIfInBounds
  have hx := ha.report_ne_exhausted settings t
  unfold report at hx ⊢
  rw [hsize]
  exact (similar_setElement he).report_eq rfl ⟨rfl, ht⟩ hx

end Parameter

theorem run_get_bind {ε α : Type} (f : Arena → ExceptT ε (StateM Arena) α) (a : Arena) :
    (get >>= f).run.run a = (f a).run.run a := rfl

theorem rebind_run (a : Arena) (t bound : TypeId) : (rebind t bound).run.run a =
    match a.setBound t bound with
    | .ok b => (.ok (), b)
    | .error fault => (.error fault, a) := by
  rw [rebind, run_get_bind, setBound]
  cases a.parameter? t with
  | none => rfl
  | some e =>
    rw [run_get_bind]
    dsimp only
    cases a.element? e with
    | none => rfl
    | some d => cases d <;> rfl

theorem rebind_eq_ok_iff :
    (rebind t s).run.run a = (.ok (), b) ↔ a.setBound t s = .ok b := by
  rw [rebind_run]
  cases a.setBound t s with
  | ok c =>
    constructor
    · rintro ⟨⟩
      rfl
    · rintro ⟨⟩
      rfl
  | error fault => exact ⟨nofun, nofun⟩

theorem rebind_eq_error_iff {fault : BoundError} :
    (rebind t s).run.run a = (.error fault, b) ↔ a.setBound t s = .error fault ∧ b = a := by
  rw [rebind_run]
  cases a.setBound t s with
  | ok c => exact ⟨nofun, nofun⟩
  | error fault' =>
    constructor
    · rintro ⟨⟩
      exact ⟨rfl, rfl⟩
    · rintro ⟨⟨⟩, rfl⟩
      rfl

inductive BoundRefused (a : Arena) (t : TypeId) : BoundError → Prop
  | notVariable (h : a.parameter? t = none) : BoundRefused a t (.notVariable t)
  | notParameter {e d} (h : a.parameter? t = some e) (he : a.element? e = some d)
      (k : d.kind ≠ .typeParameter) : BoundRefused a t (.notParameter e d)

theorem setBound_eq_error_iff (ha : a.Closed) {fault : BoundError} :
    a.setBound t s = .error fault ↔ a.BoundRefused t fault := by
  unfold setBound
  constructor
  · intro h
    cases hp : a.parameter? t with
    | none =>
      rw [hp] at h
      cases h
      exact .notVariable hp
    | some e =>
      have he : a.HasElement e := ha.element (parameter?_eq_some_iff.mp hp) rfl
      obtain ⟨d, hd⟩ := he.exists_element?
      simp only [hp, hd] at h
      cases d with
      | typeParameter => cases h
      | _ =>
        cases h
        exact .notParameter hp hd nofun
  · intro h
    cases h with
    | notVariable h => rw [h]
    | @notParameter e d h he k =>
      simp only [h, he]
      cases d with
      | typeParameter => exact absurd rfl k
      | _ => rfl

end Rebind

/-- Operations that only add leave every answer and every report about old handles as they are; a
new bound is the upper bound of its parameter's variables and of nothing else; a refused bound
leaves the session as it is. -/
theorem Reachable.undisturbed (ha : a.Reachable) :
    (∀ b, Relation.ReflTransGen Creates a b → b.AnswersAs a a.model.upperBound? ∧
      ∀ settings t, a.HasType t → b.report settings t = a.report settings t) ∧
    (∀ v s b, (rebind v s).run.run a = (.ok (), b) → ∃ e, a.parameter? v = some e ∧
      (b.AnswersAs a fun t => if a.parameter? t = some e then some s else a.model.upperBound? t) ∧
      ∀ settings t, a.Avoids e t → b.report settings t = a.report settings t) ∧
    ∀ v s fault b, (rebind v s).run.run a = (.error fault, b) ↔ a.BoundRefused v fault ∧ b = a := by
  refine ⟨fun b h => ?_, fun v s b h => ?_, fun v s fault b => ?_⟩
  · have hb := extends_of_creates h
    exact ⟨hb.answersAs ha.closed, fun settings t ht =>
      hb.arenaReport_eq ha.closed (ha.creates h).closed ht⟩
  · obtain ⟨e, name, owner, old, ht, he, rfl⟩ := setBound_eq_ok_iff.mp (rebind_eq_ok_iff.mp h)
    exact ⟨e, parameter?_eq_some_iff.mpr ht, answersAs_setElement he, fun settings t ht =>
      report_setElement he ha.closed ht⟩
  · rw [rebind_eq_error_iff, setBound_eq_error_iff ha.closed]

theorem looseSession_undisturbed :
    looseSession.Reachable ∧
    ((typeParameter ⟨1⟩ "V").run looseSession).2.report .default ⟨2⟩ =
      looseSession.report .default ⟨2⟩ ∧
    (rebind ⟨1⟩ ⟨2⟩).run.run looseSession = (.ok (), knotSession) ∧ looseSession.Avoids ⟨4⟩ ⟨0⟩ ∧
    knotSession.report .default ⟨0⟩ = looseSession.report .default ⟨0⟩ ∧
    (rebind ⟨3⟩ ⟨2⟩).run.run looseSession =
      (.error (.notParameter ⟨1⟩ (.type "Map" ⟨0⟩)), looseSession) := by
  obtain ⟨hcreates, hset, hrefused⟩ := looseSession_reachable.undisturbed
  have hc : Creates looseSession ((typeParameter ⟨1⟩ "V").run looseSession).2 :=
    .typeParameter (by decide +kernel) rfl
  have hk : (rebind ⟨1⟩ ⟨2⟩).run.run looseSession = (.ok (), knotSession) :=
    rebind_eq_ok_iff.mpr setBound_knotSession
  have hv : looseSession.Avoids ⟨4⟩ ⟨0⟩ := avoids_of_isObject
    ⟨by decide +kernel, by decide +kernel, ⟨3⟩, by decide +kernel, 3, by decide +kernel⟩
  have hr : looseSession.BoundRefused ⟨3⟩ (.notParameter ⟨1⟩ (.type "Map" ⟨0⟩)) :=
    .notParameter (by decide +kernel) (by decide +kernel) nofun
  obtain ⟨e, he, -, hreport⟩ := hset _ _ _ hk
  have h4 : looseSession.parameter? ⟨1⟩ = some ⟨4⟩ := by decide +kernel
  cases he.symm.trans h4
  exact ⟨looseSession_reachable, (hcreates _ (.single hc)).2 _ _ (by decide +kernel), hk, hv,
    hreport _ _ hv, (hrefused _ _ _ _).mpr ⟨hr, rfl⟩⟩

end JavaTypes.Arena
