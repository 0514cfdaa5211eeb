import JavaTypes.Proofs.ClassName.CanonicalName

namespace JavaTypes.ClassName

open Text

def BadPackage (package : String) : Prop :=
  package ≠ "" ∧ ∃ n ∈ segments '.' package, isIdentifier n = false

instance (package : String) : Decidable (BadPackage package) :=
  inferInstanceAs (Decidable (_ ∧ _))

def Reported (package : String) (enclosing : List String) (simpleName : String) :
    NameFault → Prop
  | .packageSegment => BadPackage package
  | .emptySimpleName => ¬ BadPackage package ∧ simpleName = ""
  | .classSegment => ¬ BadPackage package ∧ simpleName ≠ "" ∧
      ∃ n ∈ enclosing ++ [simpleName], isIdentifier n = false
  | _ => False

def spelling (package : String) (chain : List String) : String :=
  joined '.' (if package = "" then chain else package :: chain)

theorem all_packageSegments (package : String) :
    (packageSegments package).all isIdentifier = true ↔ ¬ BadPackage package := by
  by_cases h : package = ""
  · simp [packageSegments, BadPackage, h]
  · simp [packageSegments, BadPackage, h]

theorem canonicalName_eq_spelling (package : String) (enclosing : List String)
    (simpleName : String) :
    canonicalName ⟨packageSegments package, enclosing, simpleName⟩ =
      spelling package (enclosing ++ [simpleName]) := by
  by_cases h : package = ""
  · simp [canonicalName, simpleNames, packageSegments, spelling, h]
  · have hs : packageSegments package = segments '.' package := by simp [packageSegments, h]
    rw [canonicalName, spelling, if_neg h, hs, joined_append '.' (segments_ne_nil '.' package),
      joined_segments]
    rfl

section New

variable {package : String} {enclosing : List String} {simpleName : String} {e : NameError}

theorem new_eq (package : String) (enclosing : List String) (simpleName : String) :
    new package enclosing simpleName =
      let name := spelling package (enclosing ++ [simpleName])
      if BadPackage package then .error (.malformed name .packageSegment)
      else if simpleName = "" then .error (.malformed name .emptySimpleName)
      else if ∃ n ∈ enclosing ++ [simpleName], isIdentifier n = false then
        .error (.malformed name .classSegment)
      else .ok ⟨packageSegments package, enclosing, simpleName⟩ := by
  have hpackage : (!(packageSegments package).all isIdentifier) = true ↔ BadPackage package := by
    rw [Bool.not_eq_true', Bool.eq_false_iff, ne_eq, all_packageSegments, not_not]
  have hnames : (!(enclosing ++ [simpleName]).all isIdentifier) = true ↔
      ∃ n ∈ enclosing ++ [simpleName], isIdentifier n = false := by
    rw [Bool.not_eq_true', List.all_eq_false]
    simp only [Bool.not_eq_true]
  simp only [new, make, canonicalName_eq_spelling, simpleNames, hpackage, String.isEmpty_iff,
    hnames]

theorem new_eq_error_iff :
    new package enclosing simpleName = .error e ↔
      ∃ fault, Reported package enclosing simpleName fault ∧
        e = .malformed (spelling package (enclosing ++ [simpleName])) fault := by
  rw [new_eq]
  constructor
  · intro h
    dsimp only at h
    split at h
    next hp =>
      cases h
      exact ⟨.packageSegment, hp, rfl⟩
    next hp =>
      split at h
      next hs =>
        cases h
        exact ⟨.emptySimpleName, ⟨hp, hs⟩, rfl⟩
      next hs =>
        split at h
        next hn =>
          cases h
          exact ⟨.classSegment, ⟨hp, hs, hn⟩, rfl⟩
        next => cases h
  · rintro ⟨fault, hf, rfl⟩
    cases fault with
    | packageSegment => exact if_pos hf
    | emptySimpleName => exact (if_neg hf.1).trans (if_pos hf.2)
    | classSegment => exact (if_neg hf.1).trans ((if_neg hf.2.1).trans (if_pos hf.2.2))
    | _ => cases hf

theorem exists_new_error_iff :
    (∃ e, new package enclosing simpleName = .error e) ↔
      BadPackage package ∨ simpleName = "" ∨
        ∃ n ∈ enclosing ++ [simpleName], isIdentifier n = false := by
  simp only [new_eq_error_iff]
  constructor
  · rintro ⟨-, fault, hf, -⟩
    cases fault with
    | packageSegment => exact .inl hf
    | emptySimpleName => exact .inr (.inl hf.2)
    | classSegment => exact .inr (.inr hf.2.2)
    | _ => cases hf
  · intro h
    by_cases hp : BadPackage package
    · exact ⟨_, .packageSegment, hp, rfl⟩
    by_cases hs : simpleName = ""
    · exact ⟨_, .emptySimpleName, ⟨hp, hs⟩, rfl⟩
    have hn := (h.resolve_left hp).resolve_left hs
    exact ⟨_, .classSegment, ⟨hp, hs, hn⟩, rfl⟩

end New

theorem ofChain_error {package chain : List String} {e : NameError} (h : chain ≠ [])
    (he : ofChain package chain = .error e) :
    ∃ fault, e = .malformed (joined '.' (package ++ chain)) fault := by
  obtain ⟨enclosing, simpleName, rfl⟩ : ∃ enclosing simpleName, chain = enclosing ++ [simpleName] :=
    ⟨_, _, (List.dropLast_concat_getLast h).symm⟩
  have hm : make package enclosing simpleName = .error e := by simpa [ofChain] using he
  exact make_error hm

theorem parse_error {s : String} {e : NameError} (h : parse s = .error e) :
    ∃ fault, e = .malformed s fault := by
  unfold parse at h
  split at h
  · cases h
    exact ⟨_, rfl⟩
  · split at h
    · cases h
      exact ⟨_, rfl⟩
    · split at h
      next =>
        cases h
        exact ⟨_, rfl⟩
      next package chain hsplit =>
        obtain ⟨fault, rfl⟩ := ofChain_error (chain_ne_nil_of_splitAtClass? hsplit) h
        have hs : segments '.' s = package ++ chain := (splitAtClass?_eq_some_iff.mp hsplit).1
        exact ⟨fault, by rw [← hs, joined_segments]⟩

theorem refused_as_given :
    (∀ s e, parse s = .error e → ∃ fault, e = .malformed s fault) ∧
    (∀ s e, ofBinaryName s = .error e → ∃ fault, e = .malformed s fault) ∧
    ∀ package enclosing simpleName,
      ((∃ e, new package enclosing simpleName = .error e) ↔
        BadPackage package ∨ simpleName = "" ∨
          ∃ n ∈ enclosing ++ [simpleName], isIdentifier n = false) ∧
      ∀ e, new package enclosing simpleName = .error e ↔
        ∃ fault, Reported package enclosing simpleName fault ∧
          e = .malformed (spelling package (enclosing ++ [simpleName])) fault :=
  ⟨fun _ _ => parse_error, fun _ _ => ofBinaryName_error, fun _ _ _ =>
    ⟨exists_new_error_iff, fun _ => new_eq_error_iff⟩⟩

theorem digits_refused :
    (∃ e, parse "a.1.B" = .error e ∧ ∃ fault, e = .malformed "a.1.B" fault) ∧
      (∃ e, ofBinaryName "a.B$1" = .error e ∧ ∃ fault, e = .malformed "a.B$1" fault) ∧
      new "a.1" ["B"] "" = .error (.malformed "a.1.B." .packageSegment) ∧
      new "" ["1"] "" = .error (.malformed "1." .emptySimpleName) ∧
      ¬ ∃ e, new "a" ["B"] "c" = .error e := by
  obtain ⟨hparse, hbinary, hnew⟩ := refused_as_given
  have hp : Reported "a.1" ["B"] "" .packageSegment := ⟨by decide, by decide⟩
  have hs : Reported "" ["1"] "" .emptySimpleName := ⟨by decide, rfl⟩
  refine ⟨⟨_, rfl, hparse _ _ rfl⟩, ⟨_, rfl, hbinary _ _ rfl⟩,
    ((hnew _ _ _).2 _).mpr ⟨_, hp, by rfl⟩, ((hnew _ _ _).2 _).mpr ⟨_, hs, by rfl⟩, fun h => ?_⟩
  exact absurd ((hnew _ _ _).1.mp h) (by decide)

end JavaTypes.ClassName
