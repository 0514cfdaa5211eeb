import JavaTypes.Text.Segments
import JavaTypes.Text.Identifier
import JavaTypes.NameError

namespace JavaTypes

open Text

/-- Package `["java", "util"]`, enclosing classes `["Map"]` and simple name `"Entry"` make up
`java.util.Map.Entry`, or `java.util.Map$Entry` as a binary name. The default package is `[]`. -/
structure ClassName where
  package : List String
  enclosing : List String
  simpleName : String
  deriving DecidableEq, Repr

def packageSegments (s : String) : List String :=
  if s.isEmpty then [] else segments '.' s

theorem packageSegments_joined {package : List String} (free : ∀ n ∈ package, '.' ∉ n.toList)
    (h : package ≠ [""]) : packageSegments (joined '.' package) = package := by
  by_cases hn : package = []
  · simp [hn, packageSegments]
  · have hs : segments '.' (joined '.' package) = package := segments_joined '.' hn free
    have he : joined '.' package ≠ "" := by
      intro he
      rw [he] at hs
      exact h hs.symm
    rw [packageSegments, if_neg (by simpa using he), hs]

namespace ClassName

def packageName (c : ClassName) : String := joined '.' c.package

def simpleNames (c : ClassName) : List String := c.enclosing ++ [c.simpleName]

def canonicalName (c : ClassName) : String := joined '.' (c.package ++ c.simpleNames)

def binaryName (c : ClassName) : String := joined '.' (c.package ++ [joined '$' c.simpleNames])

def isTopLevel (c : ClassName) : Bool := c.enclosing.isEmpty

def Valid (c : ClassName) : Prop :=
  (∀ s ∈ c.package, isIdentifier s = true) ∧ ∀ s ∈ c.simpleNames, isIdentifier s = true

instance (c : ClassName) : Decidable c.Valid := inferInstanceAs (Decidable (_ ∧ _))

/-- The class of these parts. The package is examined first and the simple name before the
enclosing ones. -/
def make (package enclosing : List String) (simpleName : String) : Except NameError ClassName :=
  let c : ClassName := ⟨package, enclosing, simpleName⟩
  if !package.all isIdentifier then .error (.malformed c.canonicalName .packageSegment)
  else if simpleName.isEmpty then .error (.malformed c.canonicalName .emptySimpleName)
  else if !c.simpleNames.all isIdentifier then .error (.malformed c.canonicalName .classSegment)
  else .ok c

def new (package : String) (enclosing : List String) (simpleName : String) :
    Except NameError ClassName :=
  make (packageSegments package) enclosing simpleName

theorem simpleNames_ne_nil (c : ClassName) : c.simpleNames ≠ [] := by
  simp [simpleNames]

theorem head?_simpleNames (c : ClassName) :
    c.simpleNames.head? = some (c.enclosing.headD c.simpleName) := by
  rw [simpleNames]
  cases c.enclosing with
  | nil => rfl
  | cons outer rest => rfl

theorem simpleNames_eq_singleton_iff {c : ClassName} :
    (∃ n, c.simpleNames = [n]) ↔ c.isTopLevel = true := by
  rw [simpleNames, isTopLevel]
  cases c.enclosing with
  | nil => simp
  | cons outer rest => simp

namespace Valid

variable {c : ClassName}

theorem dot_notMem_package (h : c.Valid) : ∀ s ∈ c.package, '.' ∉ s.toList :=
  fun s hs => dot_notMem_of_isIdentifier (h.1 s hs)

theorem dot_notMem_simpleNames (h : c.Valid) : ∀ s ∈ c.simpleNames, '.' ∉ s.toList :=
  fun s hs => dot_notMem_of_isIdentifier (h.2 s hs)

theorem empty_notMem_package (h : c.Valid) : "" ∉ c.package :=
  fun he => ne_empty_of_isIdentifier (h.1 "" he) rfl

theorem simpleName_ne_empty (h : c.Valid) : c.simpleName ≠ "" :=
  ne_empty_of_isIdentifier (h.2 _ (by simp [simpleNames]))

theorem packageSegments_packageName (h : c.Valid) : packageSegments c.packageName = c.package := by
  apply packageSegments_joined h.dot_notMem_package
  intro hp
  exact h.empty_notMem_package (by simp [hp])

end Valid

theorem make_eq_ok_iff {package enclosing : List String} {simpleName : String} {c : ClassName} :
    make package enclosing simpleName = .ok c ↔ c = ⟨package, enclosing, simpleName⟩ ∧ c.Valid := by
  constructor
  · intro h
    simp only [make] at h
    split at h
    · cases h
    · split at h
      · cases h
      · split at h
        · cases h
        · cases h
          simp_all [Valid]
  · rintro ⟨rfl, hp, hs⟩
    have hne : simpleName ≠ "" := Valid.simpleName_ne_empty ⟨hp, hs⟩
    simp [make, List.all_eq_true.mpr hp, List.all_eq_true.mpr hs, hne]

theorem make_eq_ok_iff_isIdentifier {package enclosing : List String} {simpleName : String}
    {c : ClassName} (hp : ∀ s ∈ package, isIdentifier s = true)
    (he : ∀ s ∈ enclosing, isIdentifier s = true) :
    make package enclosing simpleName = .ok c ↔
      isIdentifier simpleName = true ∧ c = ⟨package, enclosing, simpleName⟩ := by
  rw [make_eq_ok_iff, and_comm]
  apply and_congr_left
  rintro rfl
  constructor
  · intro hv
    exact hv.2 simpleName (by simp [simpleNames])
  · intro hn
    refine ⟨hp, fun s hs => ?_⟩
    obtain hs | hs := List.mem_append.mp hs
    · exact he s hs
    · exact List.mem_singleton.mp hs ▸ hn

theorem make_valid {package enclosing : List String} {simpleName : String} {c : ClassName}
    (h : make package enclosing simpleName = .ok c) : c.Valid :=
  (make_eq_ok_iff.mp h).2

theorem Valid.new_packageName {c : ClassName} (h : c.Valid) :
    new c.packageName c.enclosing c.simpleName = .ok c := by
  rw [new, h.packageSegments_packageName]
  exact make_eq_ok_iff.mpr ⟨rfl, h⟩

theorem make_error {package enclosing : List String} {simpleName : String} {e : NameError}
    (h : make package enclosing simpleName = .error e) :
    ∃ fault, e = .malformed (canonicalName ⟨package, enclosing, simpleName⟩) fault := by
  simp only [make] at h
  split at h
  · cases h
    exact ⟨_, rfl⟩
  · split at h
    · cases h
      exact ⟨_, rfl⟩
    · split at h
      · cases h
        exact ⟨_, rfl⟩
      · cases h

end ClassName

end JavaTypes
