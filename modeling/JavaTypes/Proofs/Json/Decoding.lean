import JavaTypes.Fallible
import JavaTypes.Json.TypeName
import JavaTypes.TypeName.Nodes

namespace JavaTypes

theorem ClassName.ofParts_valid {package enclosing simpleName : Json} {c : ClassName}
    (h : ofParts package enclosing simpleName = .ok c) : c.Valid := by
  simp only [ofParts, bind_eq_ok, mapError_eq_ok] at h
  obtain ⟨p, -, es, -, s, -, h⟩ := h
  exact make_valid h

theorem ClassName.ofJson_valid {j : Json} {c : ClassName} (h : ofJson j = .ok c) : c.Valid := by
  unfold ofJson at h
  split at h
  · split at h
    · exact ofParts_valid h
    · cases h
  · exact ofParts_valid h
  · cases h

def MemberSort.Valid : (s : MemberSort) → s.Value → Prop
  | .text, _ => True
  | .className, c => c.Valid
  | .type, t => t.Valid
  | .types, ts => ∀ t ∈ ts, t.Valid

def Member.Valid (m : Member) : Prop := m.2.1.Valid m.2.2

theorem Member.valid_of_lookup {ms : List Member} (h : ∀ m ∈ ms, m.Valid) {name : String}
    {s : MemberSort} {v : s.Value} (hl : ms.lookup name = some ⟨s, v⟩) : s.Valid v := by
  obtain ⟨front, rest, rfl, -⟩ := List.lookup_eq_some_iff.mp hl
  exact h (name, ⟨s, v⟩) (by simp)

theorem TypeTag.bare_valid {tag : TypeTag} {t : TypeName} (h : tag.bare = .ok t) : t.Valid := by
  cases tag with
  | void =>
    cases h
    simp
  | null =>
    cases h
    simp
  | _ => cases h

theorem Composite.build_valid {c : Composite} {ms : List Member} {t : TypeName}
    (h : c.build ms = .ok t) (hm : ∀ m ∈ ms, m.Valid) : t.Valid := by
  cases c with
  | array =>
    simp only [build] at h
    split at h
    next component hl =>
      cases h
      exact TypeName.valid_array.mpr (Member.valid_of_lookup hm hl)
    next => cases h
  | parameterized =>
    simp only [build] at h
    split at h
    next raw arguments hr ha =>
      rw [mapError_eq_ok, TypeName.applied_eq_ok_iff] at h
      obtain ⟨hne, rfl⟩ := h
      have hv : raw.Valid := Member.valid_of_lookup hm hr
      exact TypeName.valid_parameterized.mpr ⟨⟨hv, hne⟩, Member.valid_of_lookup hm ha⟩
    next => cases h
  | typeVariable =>
    simp only [build] at h
    split at h
    next name bounds hn hb =>
      cases h
      exact TypeName.valid_typeVariable.mpr (Member.valid_of_lookup hm hb)
    next name hn hb =>
      cases h
      simp
    next => cases h
  | intersection =>
    simp only [build] at h
    split at h
    next bounds hb =>
      rw [mapError_eq_ok, TypeName.meet_eq_ok_iff] at h
      obtain ⟨hl, rfl⟩ := h
      exact TypeName.valid_intersection.mpr ⟨hl, Member.valid_of_lookup hm hb⟩
    next => cases h

namespace TypeName

def ReadsValid (j : Json) : Prop :=
  (∀ s v, read s j = .ok v → s.Valid v) ∧ ∀ tag t, readValue tag j = .ok t → t.Valid

theorem readAll_valid {js : List Json} (hj : ∀ j ∈ js, ReadsValid j) {ts : List TypeName}
    (h : readAll js = .ok ts) : ∀ t ∈ ts, t.Valid := by
  induction js generalizing ts with
  | nil =>
    cases h
    simp
  | cons j js ih =>
    simp only [readAll, bind_eq_ok] at h
    obtain ⟨t, ht, us, hus, h⟩ := h
    cases h
    have hv : t.Valid := (hj j (by simp)).1 .type t ht
    have hvs : ∀ u ∈ us, u.Valid := ih (fun k hk => hj k (by simp [hk])) hus
    exact List.forall_mem_cons.mpr ⟨hv, hvs⟩

theorem readTagged_valid {tag : TypeTag} {members : List (String × Json)}
    (hm : ∀ m ∈ members, ReadsValid m.2) {t : TypeName} (h : readTagged tag members = .ok t) :
    t.Valid := by
  induction members with
  | nil => exact TypeTag.bare_valid h
  | cons m members ih =>
    obtain ⟨name, j⟩ := m
    rw [readTagged] at h
    split at h
    · exact (hm (name, j) (by simp)).2 tag t h
    · exact ih (fun m hk => hm m (by simp [hk])) h

theorem readMembers_valid {c : Composite} {members : List (String × Json)}
    (hm : ∀ m ∈ members, ReadsValid m.2) {ms : List Member} (h : readMembers c members = .ok ms) :
    ∀ m ∈ ms, m.Valid := by
  induction members generalizing ms with
  | nil =>
    cases h
    simp
  | cons m members ih =>
    obtain ⟨name, j⟩ := m
    have hrest : ∀ m ∈ members, ReadsValid m.2 := fun m hk => hm m (by simp [hk])
    rw [readMembers] at h
    split at h
    · exact ih hrest h
    · simp only [bind_eq_ok] at h
      obtain ⟨v, hv, vs, hvs, h⟩ := h
      cases h
      exact List.forall_mem_cons.mpr ⟨(hm (name, j) (by simp)).1 _ v hv, ih hrest hvs⟩

theorem readItems_valid {members : List (String × MemberSort)} {js : List Json}
    (hj : ∀ j ∈ js, ReadsValid j) {ms : List Member} (h : readItems members js = .ok ms) :
    ∀ m ∈ ms, m.Valid := by
  induction js generalizing members ms with
  | nil =>
    rw [readItems] at h
    cases h
    simp
  | cons j js ih =>
    cases members with
    | nil => cases h
    | cons m members =>
      obtain ⟨name, s⟩ := m
      simp only [readItems, bind_eq_ok] at h
      obtain ⟨v, hv, vs, hvs, h⟩ := h
      cases h
      have hrest : ∀ m ∈ vs, m.Valid := ih (fun k hk => hj k (by simp [hk])) hvs
      exact List.forall_mem_cons.mpr ⟨(hj j (by simp)).1 s v hv, hrest⟩

theorem readsValid_of {j : Json} (ht : ∀ t, read .type j = .ok t → t.Valid)
    (hts : ∀ ts, read .types j = .ok ts → ∀ t ∈ ts, t.Valid)
    (hc : ∀ c t, readValue (.composite c) j = .ok t → t.Valid) : ReadsValid j := by
  constructor
  · intro s v h
    cases s with
    | text => trivial
    | className =>
      rw [read] at h
      exact ClassName.ofJson_valid h
    | type => exact ht v h
    | types => exact hts v h
  · intro tag t h
    cases tag with
    | primitive =>
      simp only [readValue, functor_map_eq_ok] at h
      obtain ⟨p, -, rfl⟩ := h
      simp
    | named =>
      simp only [readValue, functor_map_eq_ok] at h
      obtain ⟨c, hc, rfl⟩ := h
      exact valid_named.mpr (ClassName.ofJson_valid hc)
    | composite c => exact hc c t h
    | void | null =>
      cases j with
      | null =>
        simp only [readValue] at h
        exact TypeTag.bare_valid h
      | _ => cases h

theorem readsValid_arr {items : List Json} (hj : ∀ j ∈ items, ReadsValid j) :
    ReadsValid (.arr items) := by
  apply readsValid_of
  · intro t h
    match items with
    | [] | [_] => cases h
    | kind :: value :: more =>
      simp only [read, bind_eq_ok] at h
      obtain ⟨name, -, tag, -, u, hu, h⟩ := h
      split at h
      · cases h
        exact (hj value (by simp)).2 tag t hu
      · cases h
  · intro ts h
    rw [read] at h
    exact readAll_valid hj h
  · intro c t h
    simp only [readValue, bind_eq_ok] at h
    obtain ⟨ms, hms, h⟩ := h
    exact c.build_valid h (readItems_valid hj hms)

theorem readsValid_obj {members : List (String × Json)} (hm : ∀ m ∈ members, ReadsValid m.2) :
    ReadsValid (.obj members) := by
  apply readsValid_of
  · intro t h
    rw [read] at h
    split at h
    · simp only [bind_eq_ok] at h
      obtain ⟨name, -, tag, -, h⟩ := h
      exact readTagged_valid hm h
    · cases h
  · intro ts h
    cases h
  · intro c t h
    simp only [readValue, bind_eq_ok] at h
    obtain ⟨ms, hms, h⟩ := h
    exact c.build_valid h (readMembers_valid hm hms)

theorem readsValid (j : Json) : ReadsValid j := by
  induction j with
  | arr items ih => exact readsValid_arr ih
  | obj members ih => exact readsValid_obj ih
  | _ =>
    apply readsValid_of
    all_goals
      intros
      contradiction

theorem ofJson_valid {j : Json} {t : TypeName} (h : ofJson j = .ok t) : t.Valid :=
  (readsValid j).1 .type t h

theorem readValue_valid {tag : TypeTag} {j : Json} {t : TypeName} (h : readValue tag j = .ok t) :
    t.Valid :=
  (readsValid j).2 tag t h

end TypeName

end JavaTypes
