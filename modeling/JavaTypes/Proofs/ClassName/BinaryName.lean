import JavaTypes.ClassName.Parse

namespace JavaTypes.ClassName

open Text

namespace Valid

variable {c : ClassName}

theorem dot_notMem_joined (h : c.Valid) : '.' ∉ (joined '$' c.simpleNames).toList := by
  intro hd
  obtain hd | ⟨n, hn, hd⟩ := mem_joined hd
  · exact absurd hd (by decide)
  · exact h.dot_notMem_simpleNames n hn hd

theorem splitPackage_binaryName (h : c.Valid) :
    splitPackage c.binaryName = (c.packageName, joined '$' c.simpleNames) :=
  splitPackage_joined h.dot_notMem_package h.dot_notMem_joined

theorem segments_binaryName (h : c.Valid) :
    segments '.' c.binaryName = c.package ++ [joined '$' c.simpleNames] :=
  segments_joined_append '.' (by simp) h.dot_notMem_package (by simpa using h.dot_notMem_joined)

theorem binaryName_ne_dot_append (h : c.Valid) (t : String) : c.binaryName ≠ "." ++ t := by
  intro ht
  have hd : segments '.' ("." ++ t) = "" :: segments '.' t := segments_singleton_append '.' t
  have hs : c.package ++ [joined '$' c.simpleNames] = "" :: segments '.' t := by
    rw [← h.segments_binaryName, ht, hd]
  cases hp : c.package with
  | nil =>
    rw [hp] at hs
    exact segments_ne_nil '.' t (List.cons.inj hs).2.symm
  | cons p ps =>
    rw [hp] at hs
    exact h.empty_notMem_package (by simp [hp, (List.cons.inj hs).1])

theorem empty_notMem_segments_binaryName (h : c.Valid) : "" ∉ segments '.' c.binaryName := by
  have hs : "" ∉ c.simpleNames := fun he => ne_empty_of_isIdentifier (h.2 "" he) rfl
  rw [h.segments_binaryName]
  intro he
  obtain he | he := List.mem_append.mp he
  · exact h.empty_notMem_package he
  · exact joined_ne_empty '$' c.simpleNames_ne_nil hs (List.mem_singleton.mp he).symm

theorem notMem_binaryName (h : c.Valid) {x : Char} (hd : x ≠ '.') (hs : x ≠ '$')
    (hx : isIdentifierPart x = false) : x ∉ c.binaryName.toList := by
  intro hm
  obtain hm | ⟨n, hn, hm⟩ := mem_joined hm
  · exact hd hm
  · obtain hn | hn := List.mem_append.mp hn
    · exact notMem_of_isIdentifier (h.1 n hn) hx hm
    · cases List.mem_singleton.mp hn
      obtain hm | ⟨n, hn, hm⟩ := mem_joined hm
      · exact hs hm
      · exact notMem_of_isIdentifier (h.2 n hn) hx hm

end Valid

theorem ofBinaryName_binaryName_iff {c : ClassName} (h : c.Valid) :
    ofBinaryName c.binaryName = .ok c ↔ ∀ n ∈ c.simpleNames, '$' ∉ n.toList := by
  rw [ofBinaryName_eq_ok_iff, h.splitPackage_binaryName]
  constructor
  · rintro ⟨-, hs, -⟩ n hn
    rw [hs] at hn
    exact notMem_of_mem_segments hn
  · intro hd
    have hs : segments '$' (joined '$' c.simpleNames) = c.simpleNames :=
      segments_joined '$' c.simpleNames_ne_nil hd
    exact ⟨h.packageSegments_packageName.symm, hs.symm, h⟩

def dollarPackage : ClassName := ⟨["a$b"], ["Outer"], "Inner"⟩

def dollarClass : ClassName := ⟨["a"], ["Outer"], "$Inner"⟩

theorem dollars_ofBinaryName :
    dollarPackage.Valid ∧ ofBinaryName dollarPackage.binaryName = .ok dollarPackage ∧
      dollarClass.Valid ∧ ofBinaryName dollarClass.binaryName ≠ .ok dollarClass := by
  have hp : dollarPackage.Valid := by decide
  have hc : dollarClass.Valid := by decide
  refine ⟨hp, (ofBinaryName_binaryName_iff hp).mpr (by decide), hc, fun h => ?_⟩
  exact absurd ((ofBinaryName_binaryName_iff hc).mp h) (by decide)

theorem dropLast_append_splitPackage (s : String) :
    (segments '.' s).dropLast ++ [(splitPackage s).2] = segments '.' s := by
  have hl : (splitPackage s).2 = (segments '.' s).getLast (segments_ne_nil '.' s) := by
    simp [splitPackage, List.getLastD_eq_getLast?,
      List.getLast?_eq_some_getLast (segments_ne_nil '.' s)]
  rw [hl, List.dropLast_concat_getLast]

theorem packageSegments_splitPackage {s : String} (h : (segments '.' s).dropLast ≠ [""]) :
    packageSegments (splitPackage s).1 = (segments '.' s).dropLast := by
  apply packageSegments_joined _ h
  exact fun n hn => notMem_of_mem_segments (List.dropLast_subset _ hn)

theorem spelling_of_ofBinaryName {s : String} {c : ClassName} (h : ofBinaryName s = .ok c) :
    s = c.binaryName ∨ s = "." ++ c.binaryName := by
  obtain ⟨hp, hs, -⟩ := ofBinaryName_eq_ok_iff.mp h
  have hc : (splitPackage s).2 = joined '$' c.simpleNames := by rw [hs, joined_segments]
  have hj : s = joined '.' ((segments '.' s).dropLast ++ [joined '$' c.simpleNames]) := by
    rw [← hc, dropLast_append_splitPackage, joined_segments]
  by_cases hd : (segments '.' s).dropLast = [""]
  · -- an empty text before the last dot is taken for the default package
    have hn : c.package = [] := by simp [hp, splitPackage, hd, packageSegments]
    right
    rw [hj, hd, binaryName, hn]
    rfl
  · have hn : c.package = (segments '.' s).dropLast := hp.trans (packageSegments_splitPackage hd)
    left
    rw [hj, ← hn]
    rfl

theorem binaryName_of_ofBinaryName {s : String} {c : ClassName} (h : ofBinaryName s = .ok c) :
    (c.binaryName = s ↔ ∀ t, s ≠ "." ++ t) ∧
      ∀ s', ofBinaryName s' = .ok c → s ≠ s' → ∃ t, s = "." ++ t ∨ s' = "." ++ t := by
  constructor
  · constructor
    · rintro rfl t
      exact (ofBinaryName_valid h).binaryName_ne_dot_append t
    · intro hd
      obtain hs | hs := spelling_of_ofBinaryName h
      · exact hs.symm
      · exact absurd hs (hd _)
  · intro s' h' hne
    obtain hs | hs := spelling_of_ofBinaryName h
    · obtain hs' | hs' := spelling_of_ofBinaryName h'
      · exact absurd (hs.trans hs'.symm) hne
      · exact ⟨_, .inr hs'⟩
    · exact ⟨_, .inl hs⟩

theorem nested_binaryName :
    ofBinaryName "a.B$C" = .ok ⟨["a"], ["B"], "C"⟩ ∧
      (⟨["a"], ["B"], "C"⟩ : ClassName).binaryName = "a.B$C" := by
  have h : ofBinaryName "a.B$C" = .ok ⟨["a"], ["B"], "C"⟩ := by rfl
  refine ⟨h, (binaryName_of_ofBinaryName h).1.mpr fun t ht => ?_⟩
  simpa using congrArg String.toList ht

theorem not_forall_binaryName_eq :
    ¬ ∀ s c, ofBinaryName s = .ok c → c.binaryName = s := by
  intro h
  have hd : (⟨[], [], "A"⟩ : ClassName).binaryName = ".A" := h ".A" _ (by rfl)
  simp [binaryName, simpleNames] at hd

end JavaTypes.ClassName
