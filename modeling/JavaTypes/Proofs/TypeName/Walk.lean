import Mathlib.Data.List.Basic
import JavaTypes.TypeName.Nodes

/-!
Walks through a type name. A node stands at a position, the indices that lead to it from the root,
and a walk comes to every position once, in lexicographic order: parents before children and left
before right. What a walk collects is listed in the order of first positions.
-/

namespace JavaTypes.TypeName

/-- The node at a position. A raw class is part of its node and has no position of its own. -/
def at? : TypeName → List Nat → Option TypeName
  | t, [] => some t
  | t, i :: p => t.children[i]?.bind fun s => at? s p

mutual

def positions : TypeName → List (List Nat)
  | array component => [] :: (positions component).map (0 :: ·)
  | parameterized _ arguments => [] :: positionsFrom 0 arguments
  | typeVariable _ bounds => [] :: positionsFrom 0 bounds
  | intersection bounds => [] :: positionsFrom 0 bounds
  | _ => [[]]

def positionsFrom : Nat → List TypeName → List (List Nat)
  | _, [] => []
  | i, t :: ts => (positions t).map (i :: ·) ++ positionsFrom (i + 1) ts

end

mutual

def walk {σ : Type} (visit : σ → TypeName → σ) : TypeName → σ → σ
  | array component, s => walk visit component (visit s (array component))
  | parameterized raw arguments, s =>
    walkAll visit arguments (visit s (parameterized raw arguments))
  | typeVariable name bounds, s => walkAll visit bounds (visit s (typeVariable name bounds))
  | intersection bounds, s => walkAll visit bounds (visit s (intersection bounds))
  | t, s => visit s t

def walkAll {σ : Type} (visit : σ → TypeName → σ) : List TypeName → σ → σ
  | [], s => s
  | t :: ts, s => walkAll visit ts (walk visit t s)

end

section Walk

variable {σ : Type} (visit : σ → TypeName → σ)

theorem walkAll_eq_foldl (ts : List TypeName) (s : σ) :
    walkAll visit ts s = ts.foldl (fun s t => t.walk visit s) s := by
  induction ts generalizing s with
  | nil => rfl
  | cons t ts ih => rw [walkAll, ih, List.foldl_cons]

theorem walk_eq (t : TypeName) (s : σ) :
    t.walk visit s = t.children.foldl (fun s c => c.walk visit s) (visit s t) := by
  cases t <;> simp [walk, children, walkAll_eq_foldl]

theorem walk_eq_foldl (t : TypeName) (s : σ) : t.walk visit s = t.nodes.foldl visit s := by
  induction t using children_induct generalizing s with
  | step t ih =>
    rw [walk_eq, nodes_eq, List.foldl_cons, List.foldl_flatMap]
    apply List.foldl_ext
    intro s c hc
    exact ih c hc s

end Walk

section Positions

variable {i : Nat} {p : List Nat} {ts : List TypeName}

theorem positions_eq (t : TypeName) : t.positions = [] :: positionsFrom 0 t.children := by
  cases t <;> simp [positions, positionsFrom, children]

theorem mem_positionsFrom :
    p ∈ positionsFrom i ts ↔ ∃ j s q, ts[j]? = some s ∧ q ∈ s.positions ∧ p = (i + j) :: q := by
  induction ts generalizing i with
  | nil => simp [positionsFrom]
  | cons t ts ih =>
    rw [positionsFrom, List.mem_append, List.mem_map, ih]
    constructor
    · rintro (⟨q, hq, rfl⟩ | ⟨j, s, q, hs, hq, rfl⟩)
      · exact ⟨0, t, q, rfl, hq, rfl⟩
      · refine ⟨j + 1, s, q, hs, hq, ?_⟩
        rw [Nat.add_right_comm, Nat.add_assoc]
    · rintro ⟨j, s, q, hs, hq, rfl⟩
      cases j with
      | zero =>
        cases hs
        exact .inl ⟨q, hq, rfl⟩
      | succ j =>
        refine .inr ⟨j, s, q, hs, hq, ?_⟩
        rw [Nat.add_right_comm, Nat.add_assoc]

theorem mem_positions {t : TypeName} : p ∈ t.positions ↔ (t.at? p).isSome := by
  induction t using children_induct generalizing p with
  | step t ih =>
    rw [positions_eq, List.mem_cons, mem_positionsFrom]
    cases p with
    | nil => simp [at?]
    | cons i p =>
      constructor
      · rintro (h | ⟨j, s, q, hs, hq, he⟩)
        · cases h
        · obtain ⟨rfl, rfl⟩ := List.cons.inj he
          rw [at?, Nat.zero_add, hs, Option.bind_some]
          exact (ih s (List.mem_of_getElem? hs)).mp hq
      · intro h
        obtain ⟨n, hn⟩ := Option.isSome_iff_exists.mp h
        obtain ⟨s, hs, hsn⟩ := Option.bind_eq_some_iff.mp hn
        have hp : (s.at? p).isSome := Option.isSome_iff_exists.mpr ⟨n, hsn⟩
        have hq : p ∈ s.positions := (ih s (List.mem_of_getElem? hs)).mpr hp
        exact .inr ⟨i, s, p, hs, hq, by rw [Nat.zero_add]⟩

theorem positionsFrom_increasing (h : ∀ s ∈ ts, s.positions.Pairwise (· < ·)) :
    (positionsFrom i ts).Pairwise (· < ·) := by
  induction ts generalizing i with
  | nil => exact .nil
  | cons t ts ih =>
    have ht : ((t.positions).map (i :: ·)).Pairwise (· < ·) := by
      apply List.pairwise_map.mpr
      apply (h t List.mem_cons_self).imp
      intro p q hpq
      exact List.cons_lt_cons_iff.mpr (.inr ⟨rfl, hpq⟩)
    have hts : (positionsFrom (i + 1) ts).Pairwise (· < ·) :=
      ih fun s hs => h s (List.mem_cons_of_mem _ hs)
    refine List.pairwise_append.mpr ⟨ht, hts, ?_⟩
    intro p hp q hq
    obtain ⟨p, -, rfl⟩ := List.mem_map.mp hp
    obtain ⟨j, s, q, -, -, rfl⟩ := mem_positionsFrom.mp hq
    have hij : i < i + 1 + j := by omega
    exact List.cons_lt_cons_iff.mpr (.inl hij)

theorem positions_increasing (t : TypeName) : t.positions.Pairwise (· < ·) := by
  induction t using children_induct with
  | step t ih =>
    rw [positions_eq]
    refine List.pairwise_cons.mpr ⟨?_, positionsFrom_increasing ih⟩
    intro p hp
    obtain ⟨j, s, q, -, -, rfl⟩ := mem_positionsFrom.mp hp
    exact List.nil_lt_cons _ _

theorem map_positionsFrom {g : List Nat → Option TypeName}
    (hg : ∀ j s, ts[j]? = some s → ∀ q, g ((i + j) :: q) = s.at? q)
    (h : ∀ s ∈ ts, s.positions.map s.at? = s.nodes.map some) :
    (positionsFrom i ts).map g = (ts.flatMap nodes).map some := by
  induction ts generalizing i with
  | nil => rfl
  | cons t ts ih =>
    have ht : ((t.positions).map (i :: ·)).map g = t.nodes.map some := by
      rw [List.map_map, ← h t List.mem_cons_self]
      apply List.map_congr_left
      intro q _
      exact hg 0 t rfl q
    have hts : (positionsFrom (i + 1) ts).map g = (ts.flatMap nodes).map some := by
      apply ih
      · intro j s hs q
        have hj : i + 1 + j = i + (j + 1) := by omega
        rw [hj]
        exact hg (j + 1) s hs q
      · exact fun s hs => h s (List.mem_cons_of_mem _ hs)
    rw [positionsFrom, List.map_append, ht, hts, List.flatMap_cons, List.map_append]

theorem map_at?_positions (t : TypeName) : t.positions.map t.at? = t.nodes.map some := by
  induction t using children_induct with
  | step t ih =>
    rw [positions_eq, nodes_eq, List.map_cons, List.map_cons, map_positionsFrom _ ih]
    · rfl
    · intro j s hs q
      rw [at?, Nat.zero_add, hs, Option.bind_some]

theorem filterMap_nodes {α : Type} (f : TypeName → Option α) (t : TypeName) :
    t.nodes.filterMap f = t.positions.filterMap fun p => (t.at? p).bind f := by
  have hn : t.nodes.filterMap f = (t.nodes.map some).filterMap (·.bind f) := by
    rw [List.filterMap_map]
    rfl
  rw [hn, ← map_at?_positions, List.filterMap_map]
  rfl

end Positions

/-- The list of what the positions show, without repetition and in the order of first positions. -/
structure FirstSeen {α : Type} (shown : List Nat → Option α) (l : List α) : Prop where
  nodup : l.Nodup
  mem_iff : ∀ a, a ∈ l ↔ ∃ p, shown p = some a
  increasing : l.Pairwise fun a b => ∃ p, shown p = some a ∧ ∀ q, shown q = some b → p < q

theorem FirstSeen.unique {α : Type} {shown : List Nat → Option α} {l l' : List α}
    (h : FirstSeen shown l) (h' : FirstSeen shown l') : l = l' := by
  have hp : l.Perm l' := by
    apply (List.perm_ext_iff_of_nodup h.nodup h'.nodup).mpr
    intro a
    rw [h.mem_iff, h'.mem_iff]
  apply List.Perm.eq_of_pairwise _ h.increasing h'.increasing hp
  rintro a b - - ⟨p, hpa, hpb⟩ ⟨q, hqb, hqa⟩
  exact absurd (hqa p hpa) (List.lt_asymm (hpb q hqb))

theorem FirstSeen.iff_eq {α : Type} {shown : List Nat → Option α} {l l' : List α}
    (h : FirstSeen shown l) : FirstSeen shown l' ↔ l' = l := by
  constructor
  · intro h'
    exact h'.unique h
  · rintro rfl
    exact h

section Collecting

variable {α : Type} [DecidableEq α]

def note (f : TypeName → Option α) (seen : List α) (n : TypeName) : List α :=
  match f n with
  | some a => if a ∈ seen then seen else seen ++ [a]
  | none => seen

theorem note_eq (f : TypeName → Option α) (seen : List α) (n : TypeName) :
    note f seen n = seen ++ (f n).toList.filter (· ∉ seen) := by
  cases hn : f n with
  | none => simp [note, hn]
  | some a => by_cases ha : a ∈ seen <;> simp [note, hn, ha]

theorem filter_notMem_append (seen l : List α) (a : α) :
    l.filter (· ∉ seen ++ [a]) = (l.filter (· ∉ seen)).filter fun b => !b == a := by
  rw [List.filter_filter]
  apply List.filter_congr
  intro b _
  by_cases hb : b = a <;> simp [hb]

theorem foldl_note (f : TypeName → Option α) (ns : List TypeName) (seen : List α) :
    ns.foldl (note f) seen = seen ++ ((ns.filterMap f).filter (· ∉ seen)).eraseDups := by
  induction ns generalizing seen with
  | nil => simp
  | cons n ns ih =>
    rw [List.foldl_cons, ih, note_eq]
    cases hn : f n with
    | none => simp [hn]
    | some a =>
      by_cases ha : a ∈ seen
      · simp [hn, ha]
      · have hone : (some a).toList.filter (· ∉ seen) = [a] := by simp [ha]
        have hcons : (a :: ns.filterMap f).filter (· ∉ seen) =
            a :: (ns.filterMap f).filter (· ∉ seen) := by simp [ha]
        rw [hone, List.filterMap_cons_some hn, hcons, List.eraseDups_cons,
          filter_notMem_append, List.append_assoc]
        rfl

theorem walk_note (f : TypeName → Option α) (t : TypeName) :
    t.walk (note f) [] = (t.nodes.filterMap f).eraseDups := by
  rw [walk_eq_foldl, foldl_note]
  simp

variable {shown : List Nat → Option α} {ps : List (List Nat)}

theorem filter_ne_eq_some {o : Option α} {a b : α} :
    (o.filter fun c => !c == a) = some b ↔ o = some b ∧ b ≠ a := by
  rw [Option.filter_eq_some_iff]
  simp

theorem increasing_eraseDups (h : ps.Pairwise (· < ·)) :
    (ps.filterMap shown).eraseDups.Pairwise fun a b =>
      ∃ p ∈ ps, shown p = some a ∧ ∀ q ∈ ps, shown q = some b → p < q := by
  induction ps generalizing shown with
  | nil => exact .nil
  | cons p ps ih =>
    obtain ⟨hp, hps⟩ := List.pairwise_cons.mp h
    cases ha : shown p with
    | none =>
      rw [List.filterMap_cons_none ha]
      apply (ih hps).imp
      rintro b c ⟨q, hq, hb, hc⟩
      refine ⟨q, List.mem_cons_of_mem _ hq, hb, ?_⟩
      intro r hr hrc
      obtain rfl | hr := List.mem_cons.mp hr
      · rw [ha] at hrc
        cases hrc
      · exact hc r hr hrc
    | some a =>
      let later (q : List Nat) : Option α := (shown q).filter fun b => !b == a
      have hne : ∀ b ∈ (ps.filterMap later).eraseDups, b ≠ a := by
        intro b hb
        obtain ⟨q, -, hq⟩ := List.mem_filterMap.mp (List.mem_eraseDups.mp hb)
        exact (filter_ne_eq_some.mp hq).2
      have hlater : (ps.filterMap later).eraseDups.Pairwise fun b c =>
          ∃ q ∈ ps, later q = some b ∧ ∀ r ∈ ps, later r = some c → q < r := ih hps
      rw [List.filterMap_cons_some ha, List.eraseDups_cons, List.filter_filterMap]
      refine List.pairwise_cons.mpr ⟨?_, List.Pairwise.imp_of_mem ?_ hlater⟩
      · intro b hb
        refine ⟨p, List.mem_cons_self, ha, ?_⟩
        intro q hq hqb
        obtain rfl | hq := List.mem_cons.mp hq
        · rw [ha] at hqb
          exact absurd (Option.some.inj hqb).symm (hne b hb)
        · exact hp q hq
      · rintro b c - hc ⟨q, hq, hqb, hqc⟩
        refine ⟨q, List.mem_cons_of_mem _ hq, (filter_ne_eq_some.mp hqb).1, ?_⟩
        intro r hr hrc
        obtain rfl | hr := List.mem_cons.mp hr
        · rw [ha] at hrc
          exact absurd (Option.some.inj hrc).symm (hne c hc)
        · exact hqc r hr (filter_ne_eq_some.mpr ⟨hrc, hne c hc⟩)

end Collecting

theorem firstSeen_nodes {α : Type} [DecidableEq α] (f : TypeName → Option α) (t : TypeName) :
    FirstSeen (fun p => (t.at? p).bind f) (t.nodes.filterMap f).eraseDups := by
  have hshown : ∀ p a, (t.at? p).bind f = some a → p ∈ t.positions := by
    intro p a h
    obtain ⟨n, hn, -⟩ := Option.bind_eq_some_iff.mp h
    exact mem_positions.mpr (Option.isSome_iff_exists.mpr ⟨n, hn⟩)
  have hinc : (t.nodes.filterMap f).eraseDups.Pairwise fun a b =>
      ∃ p, (t.at? p).bind f = some a ∧ ∀ q, (t.at? q).bind f = some b → p < q := by
    rw [filterMap_nodes]
    apply (increasing_eraseDups t.positions_increasing).imp
    rintro a b ⟨p, -, ha, hb⟩
    exact ⟨p, ha, fun q hq => hb q (hshown q b hq) hq⟩
  refine ⟨?_, ?_, hinc⟩
  · apply hinc.imp
    rintro a b ⟨p, ha, hb⟩ rfl
    exact List.lt_irrefl p (hb p ha)
  · intro a
    rw [List.mem_eraseDups, filterMap_nodes, List.mem_filterMap]
    constructor
    · rintro ⟨p, -, hp⟩
      exact ⟨p, hp⟩
    · rintro ⟨p, hp⟩
      exact ⟨p, hshown p a hp, hp⟩

def classAt (t : TypeName) (p : List Nat) : Option ClassName := (t.at? p).bind class?

def primitiveAt (t : TypeName) (p : List Nat) : Option Primitive := (t.at? p).bind primitive?

theorem walk_in_order (t : TypeName) :
    (t.positions.Pairwise (· < ·) ∧ (∀ p, p ∈ t.positions ↔ (t.at? p).isSome) ∧
      t.nodes.map some = t.positions.map t.at? ∧
        ∀ (σ : Type) (visit : σ → TypeName → σ) (s : σ), t.walk visit s = t.nodes.foldl visit s) ∧
    (t.walk (note class?) [] = t.referencedClasses ∧
      ∀ cs, FirstSeen t.classAt cs ↔ cs = t.referencedClasses) ∧
    t.walk (note primitive?) [] = t.primitives ∧
      ∀ ps, FirstSeen t.primitiveAt ps ↔ ps = t.primitives := by
  have hc : FirstSeen t.classAt t.referencedClasses := firstSeen_nodes class? t
  have hp : FirstSeen t.primitiveAt t.primitives := firstSeen_nodes primitive? t
  exact ⟨⟨t.positions_increasing, fun p => mem_positions, t.map_at?_positions.symm,
    fun σ visit s => walk_eq_foldl visit t s⟩, ⟨walk_note class? t, fun cs => hc.iff_eq⟩,
    walk_note primitive? t, fun ps => hp.iff_eq⟩

example :
    (parameterized (.javaLang "Map")
      [named (.javaLang "String"), array (parameterized (.javaLang "List")
        [named (.javaLang "String")])]).referencedClasses =
      [.javaLang "Map", .javaLang "String", .javaLang "List"] := by
  rfl

end JavaTypes.TypeName
