namespace JavaTypes.Text

def segments (sep : Char) (s : String) : List String :=
  (s.toList.splitOn sep).map String.ofList

def joined (sep : Char) (names : List String) : String :=
  (String.singleton sep).intercalate names

def reseparated (old new : Char) (s : String) : String :=
  String.ofList (s.toList.map fun c => if c = old then new else c)

theorem segments_ne_nil (sep : Char) (s : String) : segments sep s ≠ [] := by
  simp [segments, List.splitOn_ne_nil]

theorem joined_segments (sep : Char) (s : String) : joined sep (segments sep s) = s := by
  apply String.toList_inj.mp
  simp [joined, segments, String.toList_intercalate, Function.comp_def, List.intercalate_splitOn]

theorem segments_joined (sep : Char) {names : List String} (h : names ≠ [])
    (free : ∀ n ∈ names, sep ∉ n.toList) : segments sep (joined sep names) = names := by
  have key : ([sep].intercalate (names.map String.toList)).splitOn sep =
      names.map String.toList := by
    apply List.splitOn_intercalate
    · simpa using free
    · simpa using h
  simp [joined, segments, String.toList_intercalate, key, Function.comp_def]

theorem segments_joined_append (sep : Char) {front back : List String} (h : back ≠ [])
    (hf : ∀ n ∈ front, sep ∉ n.toList) (hb : ∀ n ∈ back, sep ∉ n.toList) :
    segments sep (joined sep (front ++ back)) = front ++ back := by
  apply segments_joined
  · simp [h]
  · simpa [or_imp, forall_and] using ⟨hf, hb⟩

theorem notMem_of_mem_splitOn {α : Type} [BEq α] [LawfulBEq α] {a : α} {l : List α} :
    ∀ p ∈ l.splitOn a, a ∉ p := by
  induction l with
  | nil => simp
  | cons x l ih =>
    rw [List.splitOn_cons_eq_if_modifyHead]
    split
    next => simpa using ih
    next hx =>
      obtain ⟨q, qs, hq⟩ := List.exists_cons_of_ne_nil (List.splitOn_ne_nil a l)
      have hne : a ≠ x := by
        rintro rfl
        simp at hx
      rw [hq] at ih ⊢
      simpa [hne] using ih

theorem notMem_of_mem_segments {sep : Char} {s n : String} (h : n ∈ segments sep s) :
    sep ∉ n.toList := by
  obtain ⟨p, hp, rfl⟩ := List.mem_map.mp h
  simpa using notMem_of_mem_splitOn p hp

theorem segments_singleton_append (sep : Char) (s : String) :
    segments sep (String.singleton sep ++ s) = "" :: segments sep s := by
  simp [segments, List.splitOn_cons_eq_if_modifyHead]

@[simp] theorem toList_reseparated (old new : Char) (s : String) :
    (reseparated old new s).toList = s.toList.map fun c => if c = old then new else c := by
  simp [reseparated]

theorem reseparated_eq_self {old new : Char} {s : String} (h : old ∉ s.toList) :
    reseparated old new s = s := by
  apply String.toList_inj.mp
  rw [toList_reseparated]
  conv => rhs; rw [← List.map_id s.toList]
  apply List.map_congr_left
  intro c hc
  have hne : c ≠ old := fun ho => h (ho ▸ hc)
  simp [hne]

theorem notMem_reseparated {old new : Char} (h : old ≠ new) (s : String) :
    old ∉ (reseparated old new s).toList := by
  simp only [toList_reseparated, List.mem_map, not_exists, not_and]
  intro c _ hc
  split at hc
  · exact h hc.symm
  · contradiction

theorem reseparated_eq_self_iff {old new : Char} {s : String} (h : old ≠ new) :
    reseparated old new s = s ↔ old ∉ s.toList := by
  constructor
  · intro hs
    rw [← hs]
    exact notMem_reseparated h s
  · exact reseparated_eq_self

theorem reseparated_swap (old new : Char) (s : String) :
    reseparated old new (reseparated new old s) = reseparated old new s := by
  apply String.toList_inj.mp
  simp only [toList_reseparated, List.map_map]
  apply List.map_congr_left
  intro c _
  by_cases hn : c = new <;> simp [hn]

theorem reseparated_reseparated {old new : Char} {s : String} (h : new ∉ s.toList) :
    reseparated new old (reseparated old new s) = s := by
  rw [reseparated_swap, reseparated_eq_self h]

theorem eq_of_exchanged {old new c d : Char} (h : (if c = old then new else c) = d)
    (hd : d ≠ new) : c = d := by
  split at h
  · exact absurd h.symm hd
  · exact h

theorem mem_reseparated_iff {old new c : Char} {s : String} (ho : c ≠ old) (hn : c ≠ new) :
    c ∈ (reseparated old new s).toList ↔ c ∈ s.toList := by
  simp only [toList_reseparated, List.mem_map]
  constructor
  · rintro ⟨d, hd, he⟩
    rwa [← eq_of_exchanged he hn]
  · intro hc
    exact ⟨c, hc, by simp [ho]⟩

@[simp] theorem joined_nil (sep : Char) : joined sep [] = "" := rfl

@[simp] theorem joined_singleton (sep : Char) (n : String) : joined sep [n] = n := by
  simp [joined]

theorem joined_cons_cons (sep : Char) (n m : String) (names : List String) :
    joined sep (n :: m :: names) = n ++ String.singleton sep ++ joined sep (m :: names) :=
  String.intercalate_cons_cons

theorem joined_append_cons (sep : Char) (a n : String) (names : List String) :
    joined sep ((a ++ n) :: names) = a ++ joined sep (n :: names) := by
  cases names with
  | nil => simp
  | cons m names => simp only [joined_cons_cons, String.append_assoc]

theorem joined_append (sep : Char) {front : List String} (h : front ≠ []) (back : List String) :
    joined sep (front ++ back) = joined sep (joined sep front :: back) := by
  induction front with
  | nil => exact absurd rfl h
  | cons n front ih =>
    cases front with
    | nil => simp
    | cons m front =>
      have hm : joined sep ((m :: front) ++ back) = joined sep (joined sep (m :: front) :: back) :=
        ih (by simp)
      rw [joined_cons_cons, joined_append_cons, ← hm]
      exact joined_cons_cons sep n m (front ++ back)

theorem joined_concat (sep : Char) {names : List String} (h : names ≠ []) (n : String) :
    joined sep (names ++ [n]) = joined sep names ++ String.singleton sep ++ n := by
  rw [joined_append sep h, joined_cons_cons, joined_singleton]

theorem joined_concat_append (sep : Char) (front : List String) (a b : String) :
    joined sep (front ++ [a ++ b]) = joined sep (front ++ [a]) ++ b := by
  by_cases h : front = []
  · simp [h]
  · rw [joined_concat sep h, joined_concat sep h]
    simp only [String.append_assoc]

theorem joined_ne_empty (sep : Char) {names : List String} (h : names ≠ []) (he : "" ∉ names) :
    joined sep names ≠ "" := by
  cases names with
  | nil => exact absurd rfl h
  | cons n names =>
    cases names with
    | nil =>
      rw [joined_singleton]
      rintro rfl
      exact he List.mem_cons_self
    | cons m names =>
      rw [joined_cons_cons]
      intro hj
      simpa using congrArg String.toList hj

theorem mem_joined {sep c : Char} {names : List String} (h : c ∈ (joined sep names).toList) :
    c = sep ∨ ∃ n ∈ names, c ∈ n.toList := by
  induction names with
  | nil => simp at h
  | cons n names ih =>
    cases names with
    | nil => exact .inr ⟨n, by simp, by simpa using h⟩
    | cons m names =>
      simp only [joined_cons_cons, String.toList_append, String.toList_singleton,
        List.mem_append, List.mem_singleton] at h
      obtain (h | h) | h := h
      · exact .inr ⟨n, by simp, h⟩
      · exact .inl h
      · exact (ih h).imp_right fun ⟨k, hk, hc⟩ => ⟨k, by simp [hk], hc⟩

theorem takeWhile_dropWhile_eq_iff {α : Type} {p : α → Bool} {l front back : List α} :
    l.takeWhile p = front ∧ l.dropWhile p = back ↔
      l = front ++ back ∧ (∀ a ∈ front, p a = true) ∧ ∀ a, back.head? = some a → p a = false := by
  constructor
  · rintro ⟨rfl, rfl⟩
    refine ⟨List.takeWhile_append_dropWhile.symm, ?_, ?_⟩
    · exact List.all_eq_true.mp List.all_takeWhile
    · intro a ha
      have hn := List.head?_dropWhile_not p l
      simpa only [ha] using hn
  · rintro ⟨rfl, hf, hb⟩
    rw [List.takeWhile_append_of_pos hf, List.dropWhile_append_of_pos hf]
    cases back with
    | nil => simp
    | cons a back =>
      have ha : p a = false := hb a rfl
      simp [ha]

theorem append_inj_of_forall {α : Type} {p : α → Bool} {front front' back back' : List α}
    (hf : ∀ a ∈ front, p a = true) (hf' : ∀ a ∈ front', p a = true)
    (hb : ∀ a, back.head? = some a → p a = false) (hb' : ∀ a, back'.head? = some a → p a = false)
    (h : front ++ back = front' ++ back') : front = front' ∧ back = back' := by
  obtain ⟨ht, hd⟩ := takeWhile_dropWhile_eq_iff.mpr ⟨h, hf', hb'⟩
  obtain ⟨ht', hd'⟩ := takeWhile_dropWhile_eq_iff.mpr ⟨rfl, hf, hb⟩
  exact ⟨ht'.symm.trans ht, hd'.symm.trans hd⟩

end JavaTypes.Text
