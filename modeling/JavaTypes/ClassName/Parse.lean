import JavaTypes.Fallible
import JavaTypes.ClassName.Basic

/-!
Class names read from their two spellings. A canonical name leaves open where the package ends, and
the first capitalized segment decides; a binary name says so itself.
-/

namespace JavaTypes.ClassName

open Text

/-- The chain begins at the first capitalized segment; a segment on its own is a class. -/
def splitAtClass? (names : List String) : Option (List String × List String) :=
  match names.span (!isCapitalized ·) with
  | ([only], []) => some ([], [only])
  | (_, []) => none
  | (package, chain) => some (package, chain)

def ofChain (package chain : List String) : Except NameError ClassName :=
  make package chain.dropLast (chain.getLastD "")

theorem ofChain_eq_ok_iff {package chain : List String} {c : ClassName} (h : chain ≠ []) :
    ofChain package chain = .ok c ↔ c.package = package ∧ c.simpleNames = chain ∧ c.Valid := by
  obtain ⟨enclosing, simpleName, rfl⟩ : ∃ enclosing simpleName, chain = enclosing ++ [simpleName] :=
    ⟨_, _, (List.dropLast_concat_getLast h).symm⟩
  have hc : ofChain package (enclosing ++ [simpleName]) = make package enclosing simpleName := by
    simp [ofChain]
  rw [hc, make_eq_ok_iff]
  constructor
  · rintro ⟨rfl, hv⟩
    exact ⟨rfl, rfl, hv⟩
  · rintro ⟨rfl, hs, hv⟩
    obtain ⟨rfl, hn⟩ := List.append_inj' hs rfl
    cases hn
    exact ⟨rfl, hv⟩

theorem ofChain_valid {package chain : List String} {c : ClassName}
    (h : ofChain package chain = .ok c) : c.Valid :=
  make_valid h

def parse (s : String) : Except NameError ClassName :=
  if s.isEmpty then .error (.malformed s .emptyName)
  else if (segments '.' s).any (·.isEmpty) then .error (.malformed s .emptySegment)
  else match splitAtClass? (segments '.' s) with
    | none => .error (.malformed s .noCapitalizedSegment)
    | some (package, chain) => ofChain package chain

def splitPackage (s : String) : String × String :=
  let names := segments '.' s
  (joined '.' names.dropLast, names.getLastD "")

def ofBinaryName (s : String) : Except NameError ClassName :=
  let (package, classes) := splitPackage s
  let chain := segments '$' classes
  if (chain.getLastD "").isEmpty then .error (.malformed s .emptySimpleName)
  else (ofChain (packageSegments package) chain).mapError (.spelled s)

theorem parse_valid {s : String} {c : ClassName} (h : parse s = .ok c) : c.Valid := by
  unfold parse at h
  split at h
  · cases h
  · split at h
    · cases h
    · split at h
      · cases h
      · exact ofChain_valid h

theorem splitPackage_joined {package : List String} {classes : String}
    (hp : ∀ n ∈ package, '.' ∉ n.toList) (hc : '.' ∉ classes.toList) :
    splitPackage (joined '.' (package ++ [classes])) = (joined '.' package, classes) := by
  have hs : segments '.' (joined '.' (package ++ [classes])) = package ++ [classes] :=
    segments_joined_append '.' (by simp) hp (by simpa using hc)
  simp [splitPackage, hs]

theorem ofBinaryName_eq_ok_iff {s : String} {c : ClassName} :
    ofBinaryName s = .ok c ↔ c.package = packageSegments (splitPackage s).1 ∧
      c.simpleNames = segments '$' (splitPackage s).2 ∧ c.Valid := by
  rw [← ofChain_eq_ok_iff (segments_ne_nil '$' _)]
  simp only [ofBinaryName]
  split
  next he =>
    constructor
    · intro h
      cases h
    · intro h
      obtain ⟨rfl, hv⟩ := make_eq_ok_iff.mp h
      exact absurd (String.isEmpty_iff.mp he) hv.simpleName_ne_empty
  next => exact mapError_eq_ok

theorem ofBinaryName_error {s : String} {e : NameError} (h : ofBinaryName s = .error e) :
    ∃ fault, e = .malformed s fault := by
  simp only [ofBinaryName] at h
  split at h
  next =>
    cases h
    exact ⟨_, rfl⟩
  next =>
    obtain ⟨e', he, rfl⟩ := mapError_eq_error.mp h
    obtain ⟨fault, rfl⟩ := make_error he
    exact ⟨fault, rfl⟩

theorem ofBinaryName_valid {s : String} {c : ClassName} (h : ofBinaryName s = .ok c) : c.Valid :=
  (ofBinaryName_eq_ok_iff.mp h).2.2

end JavaTypes.ClassName
