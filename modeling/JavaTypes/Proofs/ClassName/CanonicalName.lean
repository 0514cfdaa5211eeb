import Mathlib.Data.List.TakeDrop
import Mathlib.Data.List.TakeWhile
import JavaTypes.ClassName.Parse

/-!
Canonical names against the classes they stand for. The dots of a canonical name do not tell where
the package ends, so a class comes back from its canonical name exactly when capitals tell it: no
segment of the package is capitalized and the outermost class is, or there is only the one segment.
A text comes back from the class it is read as, and it is read as one exactly when its segments are
identifiers and capitals tell where the class begins.
-/

namespace JavaTypes.ClassName

open Text

theorem span_isCapitalized {package chain : List String}
    (hp : ∀ n ∈ package, isCapitalized n = false)
    (hc : ∀ n, chain.head? = some n → isCapitalized n = true) :
    (package ++ chain).span (!isCapitalized ·) = (package, chain) := by
  rw [List.span_eq_takeWhile_dropWhile, Prod.mk.injEq, takeWhile_dropWhile_eq_iff]
  exact ⟨rfl, by simpa using hp, by simpa using hc⟩

theorem splitAtClass?_append {package chain : List String} {n : String}
    (hp : ∀ n ∈ package, isCapitalized n = false) (hn : isCapitalized n = true) :
    splitAtClass? (package ++ n :: chain) = some (package, n :: chain) := by
  rw [splitAtClass?, span_isCapitalized hp (by simpa using hn)]
  simp

theorem splitAtClass?_singleton (n : String) : splitAtClass? [n] = some ([], [n]) := by
  cases hn : isCapitalized n with
  | false =>
    have hs : ([n] ++ []).span (!isCapitalized ·) = ([n], []) :=
      span_isCapitalized (by simpa using hn) (by simp)
    rw [List.append_nil] at hs
    rw [splitAtClass?, hs]
  | true =>
    have hp : ∀ m ∈ ([] : List String), isCapitalized m = false := by simp
    exact splitAtClass?_append hp hn

theorem splitAtClass?_eq_some_iff {names package chain : List String} :
    splitAtClass? names = some (package, chain) ↔
      names = package ++ chain ∧ (∀ n ∈ package, isCapitalized n = false) ∧
        ((∃ n, chain.head? = some n ∧ isCapitalized n = true) ∨
          package = [] ∧ ∃ n, chain = [n]) := by
  constructor
  · intro h
    obtain ⟨front, back, hs⟩ : ∃ front back, names.span (!isCapitalized ·) = (front, back) :=
      ⟨_, _, rfl⟩
    rw [splitAtClass?, hs] at h
    rw [List.span_eq_takeWhile_dropWhile, Prod.mk.injEq, takeWhile_dropWhile_eq_iff] at hs
    obtain ⟨rfl, hf, hb⟩ := hs
    cases back with
    | nil =>
      cases front with
      | nil => cases h
      | cons only others =>
        cases others with
        | nil =>
          cases h
          exact ⟨by simp, by simp, .inr ⟨rfl, only, rfl⟩⟩
        | cons _ _ => cases h
    | cons n rest =>
      obtain ⟨rfl, rfl⟩ : front = package ∧ n :: rest = chain := by simpa using h
      exact ⟨rfl, by simpa using hf, .inl ⟨n, rfl, by simpa using hb⟩⟩
  · rintro ⟨rfl, hp, ⟨n, hn, hcap⟩ | ⟨rfl, n, rfl⟩⟩
    · obtain ⟨rest, rfl⟩ := List.head?_eq_some_iff.mp hn
      exact splitAtClass?_append hp hcap
    · exact splitAtClass?_singleton n

theorem chain_ne_nil_of_splitAtClass? {names package chain : List String}
    (h : splitAtClass? names = some (package, chain)) : chain ≠ [] := by
  rintro rfl
  simp [splitAtClass?_eq_some_iff] at h

theorem parse_eq_ok_iff {s : String} {c : ClassName} :
    parse s = .ok c ↔
      splitAtClass? (segments '.' s) = some (c.package, c.simpleNames) ∧ c.Valid := by
  constructor
  · intro h
    simp only [parse] at h
    split at h
    · cases h
    · split at h
      · cases h
      · split at h
        next => cases h
        next package chain hsplit =>
          obtain ⟨rfl, rfl, hv⟩ := (ofChain_eq_ok_iff (chain_ne_nil_of_splitAtClass? hsplit)).mp h
          exact ⟨hsplit, hv⟩
  · rintro ⟨hsplit, hv⟩
    have hs : segments '.' s = c.package ++ c.simpleNames :=
      (splitAtClass?_eq_some_iff.mp hsplit).1
    have hfull : ∀ n ∈ segments '.' s, n ≠ "" := by
      intro n hn
      rw [hs] at hn
      exact ne_empty_of_isIdentifier ((List.mem_append.mp hn).elim (hv.1 n) (hv.2 n))
    have hne : s ≠ "" := by
      rintro rfl
      exact hfull "" (by simp [segments]) rfl
    have hany : (segments '.' s).any (·.isEmpty) = false := by
      simpa using hfull
    simp only [parse, hsplit, hany, String.isEmpty_iff, hne]
    exact (ofChain_eq_ok_iff c.simpleNames_ne_nil).mpr ⟨rfl, rfl, hv⟩

theorem exists_splitAtClass?_iff {names : List String} :
    (∃ package chain, splitAtClass? names = some (package, chain)) ↔
      (∃ n ∈ names, isCapitalized n = true) ∨ names.length = 1 := by
  constructor
  · rintro ⟨package, chain, h⟩
    obtain ⟨rfl, -, ⟨n, hn, hcap⟩ | ⟨rfl, n, rfl⟩⟩ := splitAtClass?_eq_some_iff.mp h
    · exact .inl ⟨n, List.mem_append_right _ (List.mem_of_mem_head? hn), hcap⟩
    · exact .inr rfl
  · rintro (⟨n, hn, hcap⟩ | h)
    · have hback : names.dropWhile (!isCapitalized ·) ≠ [] := by
        intro he
        have hp := List.dropWhile_eq_nil_iff.mp he n hn
        simp [hcap] at hp
      obtain ⟨k, rest, hk⟩ := List.exists_cons_of_ne_nil hback
      obtain ⟨hs, hfront, hhead⟩ := takeWhile_dropWhile_eq_iff.mp ⟨rfl, hk⟩
      refine ⟨names.takeWhile (!isCapitalized ·), k :: rest, ?_⟩
      apply splitAtClass?_eq_some_iff.mpr
      exact ⟨hs, by simpa using hfront, .inl ⟨k, rfl, by simpa using hhead⟩⟩
    · obtain ⟨n, rfl⟩ := List.length_eq_one_iff.mp h
      exact ⟨[], [n], splitAtClass?_singleton n⟩

theorem package_of_splitAtClass? {names package chain : List String}
    (h : splitAtClass? names = some (package, chain)) :
    package = if names.length = 1 then [] else names.takeWhile (!isCapitalized ·) := by
  have hpos : 0 < chain.length := List.length_pos_iff.mpr (chain_ne_nil_of_splitAtClass? h)
  obtain ⟨rfl, hp, hc⟩ := splitAtClass?_eq_some_iff.mp h
  rw [List.length_append]
  split
  next hl => exact List.length_eq_zero_iff.mp (by omega)
  next hl =>
    obtain ⟨n, hn, hcap⟩ | ⟨rfl, n, rfl⟩ := hc
    · have hcut := span_isCapitalized hp fun k hk => by
        cases hn.symm.trans hk
        exact hcap
      rw [List.span_eq_takeWhile_dropWhile] at hcut
      exact (Prod.mk.inj hcut).1.symm
    · exact absurd rfl hl

/-- The segments are identifiers and tell where the class begins: one is capitalized, or there is
only one. -/
def IsCanonicalName (s : String) : Prop :=
  (∀ n ∈ segments '.' s, isIdentifier n = true) ∧
    ((∃ n ∈ segments '.' s, isCapitalized n = true) ∨ (segments '.' s).length = 1)

instance (s : String) : Decidable (IsCanonicalName s) := inferInstanceAs (Decidable (_ ∧ _))

theorem exists_parse_iff {s : String} : (∃ c, parse s = .ok c) ↔ IsCanonicalName s := by
  constructor
  · rintro ⟨c, h⟩
    obtain ⟨hsplit, hv⟩ := parse_eq_ok_iff.mp h
    refine ⟨fun n hn => ?_, exists_splitAtClass?_iff.mp ⟨_, _, hsplit⟩⟩
    rw [(splitAtClass?_eq_some_iff.mp hsplit).1] at hn
    exact (List.mem_append.mp hn).elim (hv.1 n) (hv.2 n)
  · rintro ⟨hid, hcap⟩
    obtain ⟨package, chain, hsplit⟩ := exists_splitAtClass?_iff.mpr hcap
    have hs := (splitAtClass?_eq_some_iff.mp hsplit).1
    have hne := chain_ne_nil_of_splitAtClass? hsplit
    obtain ⟨enclosing, simpleName, rfl⟩ :
        ∃ enclosing simpleName, chain = enclosing ++ [simpleName] :=
      ⟨_, _, (List.dropLast_concat_getLast hne).symm⟩
    rw [hs] at hid
    have hv : Valid ⟨package, enclosing, simpleName⟩ :=
      ⟨fun n hn => hid n (List.mem_append_left _ hn),
        fun n hn => hid n (List.mem_append_right _ hn)⟩
    exact ⟨⟨package, enclosing, simpleName⟩, parse_eq_ok_iff.mpr ⟨hsplit, hv⟩⟩

theorem segments_of_parse {s : String} {c : ClassName} (h : parse s = .ok c) :
    c.package ++ c.simpleNames = segments '.' s := by
  obtain ⟨hsplit, -⟩ := parse_eq_ok_iff.mp h
  exact (splitAtClass?_eq_some_iff.mp hsplit).1.symm

theorem parse_grammar (s : String) :
    ((∃ c, parse s = .ok c) ↔ IsCanonicalName s) ∧
      ∀ c, parse s = .ok c →
        c.canonicalName = s ∧ c.package ++ c.simpleNames = segments '.' s ∧
          c.package = if (segments '.' s).length = 1 then []
            else (segments '.' s).takeWhile (!isCapitalized ·) := by
  refine ⟨exists_parse_iff, fun c h => ⟨?_, segments_of_parse h, ?_⟩⟩
  · rw [canonicalName, segments_of_parse h, joined_segments]
  · exact package_of_splitAtClass? (parse_eq_ok_iff.mp h).1

theorem lowercase_not_parsed :
    (¬ ∃ c, parse "a.b" = .ok c) ∧ (∃ c, parse "b" = .ok c) ∧
      parse "a.B.c" = .ok ⟨["a"], ["B"], "c"⟩ ∧
      (⟨["a"], ["B"], "c"⟩ : ClassName).canonicalName = "a.B.c" := by
  have h : parse "a.B.c" = .ok ⟨["a"], ["B"], "c"⟩ := by rfl
  refine ⟨fun hc => ?_, (parse_grammar "b").1.mpr (by decide), h, ((parse_grammar _).2 _ h).1⟩
  exact absurd ((parse_grammar "a.b").1.mp hc) (by decide)

theorem Valid.segments_canonicalName {c : ClassName} (h : c.Valid) :
    segments '.' c.canonicalName = c.package ++ c.simpleNames :=
  segments_joined_append '.' c.simpleNames_ne_nil h.dot_notMem_package h.dot_notMem_simpleNames

theorem parse_canonicalName_iff {c : ClassName} (h : c.Valid) :
    parse c.canonicalName = .ok c ↔
      (∀ n ∈ c.package, isCapitalized n = false) ∧
        (isCapitalized (c.enclosing.headD c.simpleName) = true ∨
          c.package = [] ∧ c.isTopLevel = true) := by
  rw [parse_eq_ok_iff, h.segments_canonicalName, splitAtClass?_eq_some_iff, head?_simpleNames,
    simpleNames_eq_singleton_iff]
  simp [h]

def mapEntry : ClassName := ⟨["java", "util"], ["Map"], "Entry"⟩

def capitalPackage : ClassName := ⟨["a", "B"], [], "C"⟩

def lowercaseOuter : ClassName := ⟨[], ["a"], "B"⟩

theorem capitals_parse :
    mapEntry.Valid ∧ parse mapEntry.canonicalName = .ok mapEntry ∧
      capitalPackage.Valid ∧ parse capitalPackage.canonicalName ≠ .ok capitalPackage ∧
      lowercaseOuter.Valid ∧ parse lowercaseOuter.canonicalName ≠ .ok lowercaseOuter := by
  have hm : mapEntry.Valid := by decide
  have hp : capitalPackage.Valid := by decide
  have ho : lowercaseOuter.Valid := by decide
  refine ⟨hm, (parse_canonicalName_iff hm).mpr (by decide), hp, fun h => ?_, ho, fun h => ?_⟩
  · exact absurd ((parse_canonicalName_iff hp).mp h) (by decide)
  · exact absurd ((parse_canonicalName_iff ho).mp h) (by decide)

end JavaTypes.ClassName
