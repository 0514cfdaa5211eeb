import JavaTypes.Fallible
import JavaTypes.Proofs.Conversion.Step

namespace JavaTypes.TypeModel

variable {T E : Type} {m : TypeModel T E}

theorem surroundings_succ {own : String} {n : Nat} {e? : Option E}
    {r : Except Halt (String × List String)} (h : m.surroundings own n e? = r)
    (hr : r ≠ .error .exhausted) : m.surroundings own (n + 1) e? = r := by
  induction n generalizing e? r with
  | zero => exact absurd h.symm hr
  | succ n ih =>
    cases e? with
    | none => exact h
    | some e =>
      rw [surroundings] at h ⊢
      cases k : m.elementKind e with
      | type =>
        simp only [k] at h ⊢
        have hne : m.surroundings own n (m.enclosing? e) ≠ .error .exhausted := by
          intro hx
          rw [hx] at h
          exact hr h.symm
        rw [ih rfl hne]
        exact h
      | _ => simpa only [k] using h

theorem className_eq (m : TypeModel T E) (n : Nat) (e : E) :
    m.className n e = match m.surroundings (m.elementName e) n (m.enclosing? e) with
      | .error halt => .error halt
      | .ok s => (ClassName.new s.1 s.2 (m.elementName e)).mapError
          fun fault => .failed (.refused fault) := by
  simp only [className]
  cases m.surroundings (m.elementName e) n (m.enclosing? e) <;> rfl

theorem NameAt.succ {n : Nat} {e : E} {r : Except ConversionError ClassName}
    (h : m.NameAt n e r) : m.NameAt (n + 1) e r := by
  unfold NameAt at h ⊢
  rw [className_eq] at h ⊢
  have hne : m.surroundings (m.elementName e) n (m.enclosing? e) ≠ .error .exhausted := by
    intro hx
    rw [hx] at h
    cases r <;> cases h
  rw [surroundings_succ rfl hne]
  exact h

theorem NameAt.mono {n k : Nat} {e : E} {r : Except ConversionError ClassName}
    (h : m.NameAt n e r) (hk : n ≤ k) : m.NameAt k e r := by
  induction hk with
  | refl => exact h
  | step _ ih => exact ih.succ

theorem HasName.unique {e : E} {r s : Except ConversionError ClassName}
    (hr : m.HasName e r) (hs : m.HasName e s) : r = s := by
  obtain ⟨i, hi⟩ := hr
  obtain ⟨j, hj⟩ := hs
  have hr : m.NameAt (max i j) e r := NameAt.mono hi (Nat.le_max_left i j)
  have hs : m.NameAt (max i j) e s := NameAt.mono hj (Nat.le_max_right i j)
  have he : r.mapError Halt.failed = s.mapError Halt.failed := hr.symm.trans hs
  cases r <;> cases s <;> cases he <;> rfl

theorem surroundings_ends {own : String} {n : Nat} {e : E}
    (h : ∀ f, m.enclosing? e = some f →
      m.surroundings own n (m.enclosing? f) ≠ .error .exhausted) :
    m.surroundings own (n + 1) (m.enclosing? e) ≠ .error .exhausted := by
  cases he : m.enclosing? e with
  | none => simp [surroundings]
  | some f =>
    rw [surroundings]
    cases k : m.elementKind f with
    | type =>
      cases hr : m.surroundings own n (m.enclosing? f) with
      | error halt =>
        intro hx
        cases hx
        exact h f he hr
      | ok r =>
        intro hx
        cases hx
    | _ => simp

theorem exists_surroundings (hE : WellFounded m.Encloses) (own : String) (e : E) :
    ∃ n, m.surroundings own n (m.enclosing? e) ≠ .error .exhausted := by
  induction e using hE.induction with
  | _ e ih =>
    cases he : m.enclosing? e with
    | none => exact ⟨1, by simp [surroundings]⟩
    | some f =>
      obtain ⟨n, hn⟩ := ih f he
      refine ⟨n + 1, he ▸ surroundings_ends fun g hg => ?_⟩
      cases he.symm.trans hg
      exact hn

theorem NameAt.total {n : Nat} {e : E}
    (hn : m.surroundings (m.elementName e) n (m.enclosing? e) ≠ .error .exhausted) :
    ∃ r, m.NameAt n e r := by
  unfold NameAt
  rw [className_eq]
  cases hs : m.surroundings (m.elementName e) n (m.enclosing? e) with
  | error halt =>
    cases halt with
    | exhausted => exact absurd hs hn
    | failed err => exact ⟨.error err, rfl⟩
  | ok s =>
    cases hc : ClassName.new s.1 s.2 (m.elementName e) with
    | error fault => exact ⟨.error (.refused fault), by simp only [hc]; rfl⟩
    | ok c => exact ⟨.ok c, by simp only [hc]; rfl⟩

theorem HasName.total (hE : WellFounded m.Encloses) (e : E) : ∃ r, m.HasName e r := by
  obtain ⟨n, hn⟩ := exists_surroundings hE (m.elementName e) e
  obtain ⟨r, hr⟩ := NameAt.total hn
  exact ⟨r, n, hr⟩

theorem surrounded_of_surroundings {own : String} {n : Nat} {e : E} {package : String}
    {outer : List String} (h : m.surroundings own n (m.enclosing? e) = .ok (package, outer)) :
    m.Surrounded e package outer := by
  induction n generalizing e outer with
  | zero => cases h
  | succ n ih =>
    cases he : m.enclosing? e with
    | none =>
      rw [he] at h
      cases h
      exact .alone he
    | some f =>
      rw [he, surroundings] at h
      cases k : m.elementKind f with
      | package =>
        simp only [k] at h
        cases h
        exact .package he k
      | type =>
        simp only [k] at h
        cases hr : m.surroundings own n (m.enclosing? f) with
        | error halt => rw [hr] at h; cases h
        | ok r =>
          rw [hr] at h
          cases h
          exact .type he k (ih hr)
      | _ => simp only [k] at h; cases h

theorem Surrounded.exists_surroundings {e : E} {package : String} {outer : List String}
    (h : m.Surrounded e package outer) (own : String) :
    ∃ n, m.surroundings own n (m.enclosing? e) = .ok (package, outer) := by
  induction h with
  | alone h => exact ⟨1, by rw [h]; rfl⟩
  | package h k => exact ⟨1, by rw [show m.enclosing? _ = some _ from h, surroundings, k]⟩
  | type h k _ ih =>
    obtain ⟨n, hn⟩ := ih
    refine ⟨n + 1, ?_⟩
    rw [show m.enclosing? _ = some _ from h, surroundings, k]
    simp only [hn]
    rfl

theorem Surrounded.hasName {e : E} {package : String} {outer : List String}
    (h : m.Surrounded e package outer) :
    m.HasName e ((ClassName.new package outer (m.elementName e)).mapError .refused) := by
  obtain ⟨n, hn⟩ := h.exists_surroundings (m.elementName e)
  refine ⟨n, ?_⟩
  rw [className_eq]
  simp only [hn]
  exact (mapError_mapError _ _ _).symm

theorem hasName_ok_iff {e : E} {c : ClassName} :
    m.HasName e (.ok c) ↔ ∃ package outer, m.Surrounded e package outer ∧
      ClassName.new package outer (m.elementName e) = .ok c := by
  constructor
  · rintro ⟨n, h⟩
    rw [className_eq] at h
    cases hs : m.surroundings (m.elementName e) n (m.enclosing? e) with
    | error halt => rw [hs] at h; cases h
    | ok s =>
      refine ⟨s.1, s.2, surrounded_of_surroundings hs, ?_⟩
      cases hc : ClassName.new s.1 s.2 (m.elementName e) with
      | error fault =>
        simp only [hs, hc] at h
        cases h
      | ok d =>
        simp only [hs, hc] at h
        cases h
        rfl
  · rintro ⟨package, outer, hs, hc⟩
    have hn := hs.hasName
    rw [hc] at hn
    exact hn

end JavaTypes.TypeModel
