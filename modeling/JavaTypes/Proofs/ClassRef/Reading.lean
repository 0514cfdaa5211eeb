import Mathlib.Tactic.ByContra
import JavaTypes.Fallible
import JavaTypes.ClassRef.Parse

/-!
What the readers of class references accept. A reference is read from the texts that agree with its
descriptor once dots are written as slashes, and whatever a reader returns is checked.
-/

namespace JavaTypes.ClassRef

open Text

variable {whole : String}

theorem readDescriptor_object {body : List Char} (h : ';' ∉ body) (rest : List Char) :
    readDescriptor whole ('L' :: body ++ ';' :: rest) =
      ((ofObjectName (reseparated '/' '.' (String.ofList body))).map (·, rest)).mapError
        fun _ => .invalidDescriptor whole := by
  have hcut : (body ++ ';' :: rest).takeWhile (· != ';') = body ∧
      (body ++ ';' :: rest).dropWhile (· != ';') = ';' :: rest := by
    apply takeWhile_dropWhile_eq_iff.mpr
    refine ⟨rfl, fun c hc => ?_, by simp⟩
    have hne : c ≠ ';' := fun he => h (he ▸ hc)
    simpa using hne
  rw [List.cons_append, readDescriptor]
  simp only [hcut.1, hcut.2]

theorem readDescriptor_object_of_eq {name : String} (hn : isObjectName name = true)
    {body : List Char} (hb : reseparated '.' '/' (String.ofList body) = reseparated '.' '/' name)
    (rest : List Char) :
    readDescriptor whole ('L' :: body ++ ';' :: rest) = .ok (object name, rest) := by
  obtain ⟨hslash, hsemi, -⟩ := (isObjectName_iff.mp hn).1
  have hfree : ';' ∉ body := by
    intro hm
    have hr : ';' ∈ (reseparated '.' '/' (String.ofList body)).toList :=
      (mem_reseparated_iff (by decide) (by decide)).mpr (by simpa using hm)
    rw [hb, mem_reseparated_iff (by decide) (by decide)] at hr
    exact hsemi hr
  have hname : reseparated '/' '.' (String.ofList body) = name := by
    rw [← reseparated_swap, hb, reseparated_reseparated hslash]
  rw [readDescriptor_object hfree, hname, ofObjectName_eq_ok_iff.mpr ⟨hn, rfl⟩]
  rfl

theorem eq_of_dropWhile_eq_cons {cs after : List Char} {x : Char}
    (h : cs.dropWhile (· != ';') = x :: after) :
    ';' ∉ cs.takeWhile (· != ';') ∧ cs = cs.takeWhile (· != ';') ++ ';' :: after := by
  obtain ⟨hcs, hbody, hx⟩ := takeWhile_dropWhile_eq_iff.mp ⟨rfl, h⟩
  obtain rfl : x = ';' := by simpa using hx x rfl
  refine ⟨fun hm => ?_, hcs⟩
  simpa using hbody _ hm

/-- What is read has the characters of its descriptor, up to dots in the place of slashes. -/
theorem spelling_of_readDescriptor {cs rest : List Char} {r : ClassRef}
    (h : readDescriptor whole cs = .ok (r, rest)) :
    (r.Checked ∧ r ≠ void) ∧
      ∃ ds, cs = ds ++ rest ∧ reseparated '.' '/' (String.ofList ds) = r.descriptor := by
  fun_induction readDescriptor whole cs generalizing r rest with
  | case1 => cases h
  | case2 cs ih =>
    obtain ⟨⟨component, rest⟩, hr, he⟩ := map_eq_ok.mp h
    cases he
    obtain ⟨hc, ds, rfl, hd⟩ := ih hr
    refine ⟨⟨checked_array.mpr hc, by simp⟩, '[' :: ds, rfl, ?_⟩
    apply String.toList_inj.mp
    rw [toList_descriptor_array, ← hd]
    simp
  | case3 cs hnil => cases h
  | case4 cs x after hcut =>
    obtain ⟨q, hq, he⟩ := map_eq_ok.mp (mapError_eq_ok.mp h)
    cases he
    obtain ⟨hn, rfl⟩ := ofObjectName_eq_ok_iff.mp hq
    obtain ⟨-, hcs⟩ := eq_of_dropWhile_eq_cons hcut
    refine ⟨⟨checked_object.mpr hn, by simp⟩, 'L' :: cs.takeWhile (· != ';') ++ [';'],
      by simpa using hcs, ?_⟩
    apply String.toList_inj.mp
    rw [toList_descriptor_object, reseparated_swap]
    simp
  | case5 c cs _ _ b hb =>
    cases h
    cases BaseType.ofDescriptor?_eq_some_iff.mp hb
    refine ⟨by simp, [b.descriptor], rfl, ?_⟩
    cases b <;> decide
  | case6 => cases h

theorem readDescriptor_append {r : ClassRef} (hc : r.Checked) (hv : r ≠ void) {ds : List Char}
    (hd : reseparated '.' '/' (String.ofList ds) = r.descriptor) (rest : List Char) :
    readDescriptor whole (ds ++ rest) = .ok (r, rest) := by
  replace hd := congrArg String.toList hd
  simp only [toList_reseparated, String.toList_ofList] at hd
  -- A dot can only stand for a slash, so outside the name the characters are the descriptor's.
  induction r generalizing ds with
  | primitive b =>
    rw [toList_descriptor_primitive] at hd
    obtain ⟨c, rfl, hcb⟩ := List.map_eq_singleton_iff.mp hd
    cases eq_of_exchanged hcb (by cases b <;> decide)
    cases b <;> rfl
  | void => exact absurd rfl hv
  | array component ih =>
    rw [toList_descriptor_array] at hd
    obtain ⟨c, ds, rfl, hcb, hds⟩ := List.map_eq_cons_iff.mp hd
    cases eq_of_exchanged hcb (by decide)
    obtain ⟨hc, hv⟩ := checked_array.mp hc
    rw [List.cons_append, readDescriptor, ih hc hv hds]
    rfl
  | object name =>
    rw [toList_descriptor_object, List.cons_append] at hd
    obtain ⟨c, ds, rfl, hcl, hds⟩ := List.map_eq_cons_iff.mp hd
    cases eq_of_exchanged hcl (by decide)
    obtain ⟨body, last, rfl, hbody, hlast⟩ := List.map_eq_append_iff.mp hds
    obtain ⟨x, rfl, hx⟩ := List.map_eq_singleton_iff.mp hlast
    cases eq_of_exchanged hx (by decide)
    have hb : reseparated '.' '/' (String.ofList body) = reseparated '.' '/' name := by
      apply String.toList_inj.mp
      simpa using hbody
    have hds : 'L' :: (body ++ [';']) ++ rest = 'L' :: body ++ ';' :: rest := by simp
    rw [hds]
    exact readDescriptor_object_of_eq (checked_object.mp hc) hb rest

theorem readDescriptor_toList_iff {s : String} {r : ClassRef} :
    readDescriptor whole s.toList = .ok (r, []) ↔
      (r.Checked ∧ r ≠ void) ∧ reseparated '.' '/' s = r.descriptor := by
  constructor
  · intro h
    obtain ⟨hr, ds, hs, hd⟩ := spelling_of_readDescriptor h
    rw [List.append_nil] at hs
    rw [← hs, String.ofList_toList] at hd
    exact ⟨hr, hd⟩
  · rintro ⟨⟨hc, hv⟩, hd⟩
    rw [← String.ofList_toList (s := s)] at hd
    simpa using readDescriptor_append hc hv hd []

theorem reseparated_eq_void_descriptor_iff {s : String} :
    reseparated '.' '/' s = void.descriptor ↔ s = "V" := by
  constructor
  · intro h
    have hl := congrArg String.toList h
    rw [toList_reseparated] at hl
    obtain ⟨c, hs, hc⟩ := List.map_eq_singleton_iff.mp hl
    cases eq_of_exchanged hc (by decide)
    exact String.toList_inj.mp hs
  · rintro rfl
    decide

theorem ofDescriptor_eq_ok_iff_of_ne {s : String} {r : ClassRef} (hs : s ≠ "V") :
    ofDescriptor s = .ok r ↔ readDescriptor s s.toList = .ok (r, []) := by
  rw [ofDescriptor, if_neg hs]
  split
  next q hq => simp [hq]
  next q hrest hq =>
    have hne : q ≠ (r, []) := by
      rintro rfl
      exact hrest r rfl
    simp [hq, hne]
  next e he => simp [he]

theorem readDescriptor_error {cs : List Char} {e : ClassRefError}
    (h : readDescriptor whole cs = .error e) : e = .invalidDescriptor whole := by
  fun_induction readDescriptor whole cs generalizing e with
  | case1 =>
    cases h
    rfl
  | case2 cs ih =>
    cases hr : readDescriptor whole cs with
    | ok q =>
      rw [hr] at h
      cases h
    | error d =>
      rw [hr] at h
      cases h
      exact ih hr
  | case3 =>
    cases h
    rfl
  | case4 =>
    obtain ⟨_, -, he⟩ := mapError_eq_error.mp h
    exact he.symm
  | case5 => cases h
  | case6 =>
    cases h
    rfl

theorem ofDescriptor_error {s : String} {e : ClassRefError} (h : ofDescriptor s = .error e) :
    e = .invalidDescriptor s := by
  rw [ofDescriptor] at h
  split at h
  next => cases h
  next =>
    split at h
    next => cases h
    next =>
      cases h
      rfl
    next d hd =>
      cases h
      exact readDescriptor_error hd

theorem ofDescriptor_eq_ok_iff {s : String} {r : ClassRef} :
    ofDescriptor s = .ok r ↔ r.Checked ∧ reseparated '.' '/' s = r.descriptor := by
  by_cases hs : s = "V"
  · have hread : readDescriptor s s.toList = .error (.invalidDescriptor s) := by
      rw [hs]
      rfl
    rw [ofDescriptor, if_pos hs, Except.ok.injEq]
    constructor
    · rintro rfl
      exact ⟨checked_void, reseparated_eq_void_descriptor_iff.mpr hs⟩
    · rintro ⟨hc, hd⟩
      by_contra hv
      rw [readDescriptor_toList_iff.mpr ⟨⟨hc, Ne.symm hv⟩, hd⟩] at hread
      cases hread
  · rw [ofDescriptor_eq_ok_iff_of_ne hs, readDescriptor_toList_iff]
    constructor
    · rintro ⟨⟨hc, -⟩, hd⟩
      exact ⟨hc, hd⟩
    · rintro ⟨hc, hd⟩
      refine ⟨⟨hc, ?_⟩, hd⟩
      rintro rfl
      exact hs (reseparated_eq_void_descriptor_iff.mp hd)

theorem ofArrayName_eq_ok_iff {s : String} {r : ClassRef} :
    ofArrayName s = .ok r ↔
      '/' ∉ s.toList ∧ r.Checked ∧ reseparated '.' '/' s = r.descriptor := by
  rw [ofArrayName]
  split
  next h =>
    have hs : '/' ∈ s.toList := by simpa using h
    simp [hs]
  next h =>
    have hs : '/' ∉ s.toList := by simpa using h
    have htwice : reseparated '.' '/' (reseparated '.' '/' s) = reseparated '.' '/' s :=
      reseparated_eq_self (notMem_reseparated (by decide) s)
    rw [mapError_eq_ok, ofDescriptor_eq_ok_iff, htwice]
    simp [hs]

theorem ofName_cases {s : String} {r : ClassRef} (h : ofName s = .ok r) :
    (s = "void" ∧ r = void) ∨ (∃ b : BaseType, s = b.keyword ∧ r = primitive b) ∨
      (s.toList.head? = some '[' ∧ ofArrayName s = .ok r) ∨
      (isObjectName s = true ∧ r = object s) := by
  rw [ofName] at h
  split at h
  next hs =>
    cases h
    exact .inl ⟨hs, rfl⟩
  next =>
    split at h
    next b hb =>
      cases h
      exact .inr (.inl ⟨b, BaseType.ofKeyword?_eq_some_iff.mp hb, rfl⟩)
    next =>
      split at h
      next hb => exact .inr (.inr (.inl ⟨hb, h⟩))
      next => exact .inr (.inr (.inr (ofObjectName_eq_ok_iff.mp h)))

theorem ofObjectName_error {s : String} {e : ClassRefError} (h : ofObjectName s = .error e) :
    e = .invalidName s := by
  rw [ofObjectName] at h
  split at h
  next => cases h
  next =>
    cases h
    rfl

theorem ofArrayName_error {s : String} {e : ClassRefError} (h : ofArrayName s = .error e) :
    e = .invalidName s := by
  rw [ofArrayName] at h
  split at h
  next =>
    cases h
    rfl
  next =>
    obtain ⟨_, -, he⟩ := mapError_eq_error.mp h
    exact he.symm

theorem ofName_error {s : String} {e : ClassRefError} (h : ofName s = .error e) :
    e = .invalidName s := by
  rw [ofName] at h
  split at h
  next => cases h
  next =>
    split at h
    next => cases h
    next =>
      split at h
      next => exact ofArrayName_error h
      next => exact ofObjectName_error h

theorem checked_of_ofName {s : String} {r : ClassRef} (h : ofName s = .ok r) : r.Checked := by
  obtain ⟨-, rfl⟩ | ⟨b, -, rfl⟩ | ⟨-, ha⟩ | ⟨hn, rfl⟩ := ofName_cases h
  · exact checked_void
  · exact checked_primitive b
  · exact (ofArrayName_eq_ok_iff.mp ha).2.1
  · exact checked_object.mpr hn

end JavaTypes.ClassRef
