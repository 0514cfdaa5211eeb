import JavaTypes.Proofs.ClassRef.Named

namespace JavaTypes.ClassRef

open Text

/-- What stands behind the brackets. Slashes in the name of a class are read as dots. -/
inductive DescribesElement : List Char → ClassRef → Prop
  | primitive (b : BaseType) : DescribesElement [b.descriptor] (primitive b)
  | object {body : List Char} {r : ClassRef} (h : ';' ∉ body)
      (hr : ofObjectName (reseparated '/' '.' (String.ofList body)) = .ok r) :
      DescribesElement ('L' :: body ++ [';']) r

inductive Describes : String → ClassRef → Prop
  | void : Describes "V" void
  | field (n : Nat) {cs : List Char} {r : ClassRef} (h : DescribesElement cs r) :
      Describes (String.ofList (List.replicate n '[' ++ cs)) (arrayOf n r)

variable {whole : String} {cs rest : List Char} {r : ClassRef}

theorem DescribesElement.read (h : DescribesElement cs r) (rest : List Char) :
    readDescriptor whole (cs ++ rest) = .ok (r, rest) := by
  cases h with
  | primitive b => cases b <;> rfl
  | @object body _ hfree hr =>
    have hcs : 'L' :: body ++ [';'] ++ rest = 'L' :: body ++ ';' :: rest := by simp
    rw [hcs, readDescriptor_object hfree, hr]
    rfl

theorem DescribesElement.read_arrayOf (h : DescribesElement cs r) (n : Nat) (rest : List Char) :
    readDescriptor whole (List.replicate n '[' ++ cs ++ rest) = .ok (arrayOf n r, rest) := by
  induction n with
  | zero => exact h.read rest
  | succ n ih =>
    rw [List.replicate_succ, List.cons_append, List.cons_append, readDescriptor, ih]
    rfl

theorem element_of_readDescriptor (h : readDescriptor whole cs = .ok (r, rest)) :
    ∃ n ds q, DescribesElement ds q ∧ cs = List.replicate n '[' ++ ds ++ rest ∧
      r = arrayOf n q := by
  fun_induction readDescriptor whole cs generalizing r rest with
  | case1 => cases h
  | case2 cs ih =>
    obtain ⟨⟨component, rest⟩, hr, he⟩ := map_eq_ok.mp h
    cases he
    obtain ⟨n, ds, q, hq, rfl, rfl⟩ := ih hr
    exact ⟨n + 1, ds, q, hq, rfl, rfl⟩
  | case3 cs hnil => cases h
  | case4 cs x after hcut =>
    obtain ⟨q, hq, he⟩ := map_eq_ok.mp (mapError_eq_ok.mp h)
    cases he
    obtain ⟨hfree, hcs⟩ := eq_of_dropWhile_eq_cons hcut
    refine ⟨0, _, _, .object hfree hq, ?_, rfl⟩
    simpa using hcs
  | case5 c cs _ _ b hb =>
    cases h
    cases BaseType.ofDescriptor?_eq_some_iff.mp hb
    exact ⟨0, _, _, .primitive b, rfl, rfl⟩
  | case6 => cases h

theorem readDescriptor_eq_ok_iff :
    readDescriptor whole cs = .ok (r, []) ↔
      ∃ n ds q, DescribesElement ds q ∧ cs = List.replicate n '[' ++ ds ∧ r = arrayOf n q := by
  constructor
  · intro h
    simpa using element_of_readDescriptor h
  · rintro ⟨n, ds, q, hq, rfl, rfl⟩
    simpa using hq.read_arrayOf n []

theorem ofDescriptor_eq_ok_iff_describes {s : String} :
    ofDescriptor s = .ok r ↔ Describes s r := by
  constructor
  · intro h
    by_cases hs : s = "V"
    · subst hs
      cases h
      exact .void
    · rw [ofDescriptor_eq_ok_iff_of_ne hs, readDescriptor_eq_ok_iff] at h
      obtain ⟨n, ds, q, hq, hcs, rfl⟩ := h
      rw [← String.ofList_toList (s := s), hcs]
      exact .field n hq
  · intro h
    cases h with
    | void => rfl
    | @field n cs q hq =>
      have hread (whole : String) :
          readDescriptor whole (String.ofList (List.replicate n '[' ++ cs)).toList =
            .ok (arrayOf n q, []) := by
        simpa using hq.read_arrayOf n []
      have hne : String.ofList (List.replicate n '[' ++ cs) ≠ "V" := by
        intro hv
        rw [hv] at hread
        cases hread "V"
      exact (ofDescriptor_eq_ok_iff_of_ne hne).mpr (hread _)

theorem descriptor_grammar :
    (∀ s r, ofDescriptor s = .ok r ↔ Describes s r) ∧
      (∀ s, (¬ ∃ r, Describes s r) → ofDescriptor s = .error (.invalidDescriptor s)) ∧
      ∀ s e, ofName s = .error e → e = .invalidName s := by
  refine ⟨fun s r => ofDescriptor_eq_ok_iff_describes, fun s h => ?_, fun s e => ofName_error⟩
  cases hd : ofDescriptor s with
  | ok r => exact absurd ⟨r, ofDescriptor_eq_ok_iff_describes.mp hd⟩ h
  | error e => rw [ofDescriptor_error hd]

theorem bracketed_read :
    Describes "[[La/b$C;" (arrayOf 2 (object "a.b$C")) ∧
      ofDescriptor "[[La/b$C;" = .ok (arrayOf 2 (object "a.b$C")) ∧
      (¬ ∃ r, Describes "[V" r) ∧ ofDescriptor "[V" = .error (.invalidDescriptor "[V") ∧
      ∃ e, ofName "[La/B;" = .error e ∧ e = .invalidName "[La/B;" := by
  obtain ⟨hread, hrefused, hname⟩ := descriptor_grammar
  have ho : DescribesElement ('L' :: "a/b$C".toList ++ [';']) (object "a.b$C") :=
    .object (by decide) (by rfl)
  have hd : Describes "[[La/b$C;" (arrayOf 2 (object "a.b$C")) := .field 2 ho
  have hv : ¬ ∃ r, Describes "[V" r := by
    rintro ⟨r, hr⟩
    cases (hread _ _).mpr hr
  exact ⟨hd, (hread _ _).mpr hd, hv, hrefused _ hv, _, rfl, hname _ _ rfl⟩

end JavaTypes.ClassRef
