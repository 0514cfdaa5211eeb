import JavaTypes.Model.Expand
import JavaTypes.Proofs.Conversion.Run

namespace JavaTypes

namespace Conversion

variable {E T α β : Type}

theorem ofExcept_bind (x : Except Halt α) (f : α → Except Halt β) :
    (ofExcept (x >>= f) : Conversion E β) = ofExcept x >>= fun a => ofExcept (f a) := by
  cases x <;> rfl

theorem ofExcept_mapM (f : T → Except Halt α) (ts : List T) :
    (ofExcept (ts.mapM f) : Conversion E (List α)) = ts.mapM fun t => ofExcept (f t) := by
  induction ts with
  | nil => rfl
  | cons t ts ih =>
    simp only [List.mapM_cons, ofExcept_bind, ih]
    rfl

theorem outcome_ofExcept (x : Except Halt α) (p : Progress E) :
    (ofExcept x : Conversion E α).outcome p = (x, p) := by
  cases x <;> rfl

theorem outcome_ofExcept_bind (x : Except Halt α) (f : α → β) (p : Progress E) :
    (do return f (← ofExcept x) : Conversion E β).outcome p = (do return f (← x), p) := by
  cases x <;> rfl

theorem outcome_eq_ok {x : Conversion E α} {p : Progress E} {a : α} :
    (x.outcome p).1 = .ok a ↔ ∃ q, x.Yields p a q := by
  constructor
  · intro h
    exact ⟨(x.outcome p).2, Prod.ext h rfl⟩
  · rintro ⟨q, h⟩
    rw [h.outcome_eq]

theorem outcome_eq_error {x : Conversion E α} {p : Progress E} {e : ConversionError} :
    (x.outcome p).1 = .error (.failed e) ↔ ∃ q, x.Fails p e q := by
  constructor
  · intro h
    exact ⟨(x.outcome p).2, Prod.ext h rfl⟩
  · rintro ⟨q, h⟩
    rw [h.outcome_eq]

end Conversion

def Plain {T E α : Type} (R : T → α → Prop) (t : T) (p : Progress E) (a : α) (q : Progress E) :
    Prop :=
  R t a ∧ q = p

namespace TypeModel

open Conversion

variable {T E : Type} (m : TypeModel T E) (convention : Convention) (n : Nat)
  (inner : T → Except Halt TypeName)

theorem declared_ofExcept (t : T) :
    (m.declared n (fun s => ofExcept (inner s)) t : Conversion E TypeName) =
      ofExcept (m.expandDeclared n inner t) := by
  unfold declared expandDeclared
  cases m.element? t with
  | none => rfl
  | some e =>
    simp only [ofExcept_bind]
    congr 1
    funext raw
    cases m.arguments t with
    | nil => rfl
    | cons s ss =>
      simp only [ofExcept_bind, ofExcept_mapM]
      rfl

theorem intersectionParts_ofExcept (t : T) :
    (m.intersectionParts (fun s => ofExcept (inner s)) t : Conversion E (List TypeName)) =
      ofExcept (m.expandParts inner t) := by
  unfold intersectionParts expandParts
  simp only [ofExcept_bind, ofExcept_mapM]
  congr 1
  funext parts
  split <;> rfl

theorem bounds_ofExcept (name : String) (t : T) :
    (m.bounds convention n (fun s => ofExcept (inner s)) name t :
      Conversion E (List TypeName)) = ofExcept (m.expandBounds convention n inner name t) := by
  unfold bounds expandBounds
  cases m.upperBound? t with
  | none => rfl
  | some b =>
    have plain : (do return [← ofExcept (inner b)] : Conversion E (List TypeName)) =
        ofExcept (do return [← inner b]) := by
      rw [ofExcept_bind]
      rfl
    dsimp only
    cases m.kind b with
    | intersection =>
      dsimp only
      rw [intersectionParts_ofExcept, ofExcept_bind]
      cases convention <;> rfl
    | declared =>
      dsimp only
      rw [ofExcept_bind]
      congr 1
      funext o
      cases o
      · exact plain
      · rfl
    | _ => exact plain

variable [DecidableEq E]

theorem convertStep_ofExcept (t : T) :
    ((m.convertStep convention n (fun s => ofExcept (inner s)) t).outcome .start).1 =
      m.expandStep convention n inner t := by
  unfold convertStep expandStep
  rw [outcome_bind]
  cases k : m.kind t with
  | array =>
    dsimp only
    cases hc : m.component? t with
    | none => rfl
    | some s => exact congrArg Prod.fst (outcome_ofExcept_bind (inner s) TypeName.array _)
  | declared =>
    dsimp only
    rw [declared_ofExcept]
    exact congrArg Prod.fst (outcome_ofExcept _ _)
  | intersection =>
    dsimp only
    rw [intersectionParts_ofExcept]
    exact congrArg Prod.fst (outcome_ofExcept_bind _ TypeName.intersection _)
  | typeVariable =>
    dsimp only
    unfold typeVariable
    cases m.element? t with
    | none => rfl
    | some e =>
      simp only [bounds_ofExcept]
      cases m.expandBounds convention n inner (m.elementName e) t <;> rfl
  | _ => rfl

theorem expandStep_eq_ok {t : T} {a : TypeName} :
    m.expandStep convention n inner t = .ok a ↔
      ∃ q : Progress E, m.Step (Plain fun s b => inner s = .ok b) (m.NameAt n) convention t .start
        a q := by
  have hY : (fun s => (ofExcept (inner s) : Conversion E TypeName).Yields) =
      Plain fun s b => inner s = .ok b := by
    funext s p b q
    exact propext yields_ofExcept
  rw [← convertStep_ofExcept, outcome_eq_ok, ← hY]
  simp only [yields_convertStep]

theorem expandStep_eq_error {t : T} {err : ConversionError} :
    m.expandStep convention n inner t = .error (.failed err) ↔
      ∃ q : Progress E, m.Failure (Plain fun s b => inner s = .ok b)
        (Plain fun s e => inner s = .error (.failed e)) (m.NameAt n) t .start err q := by
  have hY : (fun s => (ofExcept (inner s) : Conversion E TypeName).Yields) =
      Plain fun s b => inner s = .ok b := by
    funext s p b q
    exact propext yields_ofExcept
  have hF : (fun s => (ofExcept (inner s) : Conversion E TypeName).Fails) =
      Plain fun s e => inner s = .error (.failed e) := by
    funext s p e q
    exact propext fails_ofExcept
  rw [← convertStep_ofExcept, outcome_eq_error, ← hY, ← hF]
  simp only [fails_convertStep]

variable {m convention}

theorem expand_succ :
    (∀ {t a}, m.expand convention n t = .ok a → m.expand convention (n + 1) t = .ok a) ∧
    ∀ {t err}, m.expand convention n t = .error (.failed err) →
      m.expand convention (n + 1) t = .error (.failed err) := by
  induction n with
  | zero => exact ⟨nofun, nofun⟩
  | succ n ih =>
    constructor
    · intro t a h
      obtain ⟨q, h⟩ := (m.expandStep_eq_ok _ _ _).mp h
      exact (m.expandStep_eq_ok _ _ _).mpr ⟨q, h.mono (And.imp_left ih.1) NameAt.succ⟩
    · intro t err h
      obtain ⟨q, h⟩ := (m.expandStep_eq_error _ _ _).mp h
      exact (m.expandStep_eq_error _ _ _).mpr
        ⟨q, h.mono (And.imp_left ih.1) (And.imp_left ih.2) NameAt.succ⟩

theorem expand_mono {n k : Nat} (hk : n ≤ k) {t : T}
    (h : m.expand convention n t ≠ .error .exhausted) :
    m.expand convention k t = m.expand convention n t := by
  induction hk with
  | refl => rfl
  | step _ ih =>
    cases hx : m.expand convention n t with
    | ok a => exact (expand_succ _).1 (ih.trans hx)
    | error halt =>
      cases halt with
      | exhausted => exact absurd hx h
      | failed err => exact (expand_succ _).2 (ih.trans hx)

theorem expand_unique {n k : Nat} {t : T} {r s : Except Halt TypeName}
    (h : m.expand convention n t = r) (h' : m.expand convention k t = s)
    (hr : r ≠ .error .exhausted) (hs : s ≠ .error .exhausted) : r = s := by
  subst h h'
  exact (expand_mono (Nat.le_max_left n k) hr).symm.trans (expand_mono (Nat.le_max_right n k) hs)

def Expands (m : TypeModel T E) (convention : Convention) (t : T) (a : TypeName) : Prop :=
  ∃ n, m.expand convention n t = .ok a

def Refuses (m : TypeModel T E) (convention : Convention) (t : T) (err : ConversionError) : Prop :=
  ∃ n, m.expand convention n t = .error (.failed err)

theorem Expands.unique {t : T} {a b : TypeName} (h : m.Expands convention t a)
    (h' : m.Expands convention t b) : a = b := by
  obtain ⟨n, hn⟩ := h
  obtain ⟨k, hk⟩ := h'
  cases expand_unique hn hk nofun nofun
  rfl

theorem Expands.not_refuses {t : T} {a : TypeName} {err : ConversionError}
    (h : m.Expands convention t a) : ¬ m.Refuses convention t err := by
  obtain ⟨n, hn⟩ := h
  rintro ⟨k, hk⟩
  cases expand_unique hn hk nofun nofun

omit [DecidableEq E] in
theorem rising_plain {α : Type} {R : Nat → T → α → Prop}
    (h : ∀ {i j}, i ≤ j → ∀ {t a}, R i t a → R j t a) :
    Rising fun n => (Plain (R n) : T → Progress E → α → Progress E → Prop) :=
  fun _ _ hij _ _ _ _ hr => hr.imp_left (h hij)

theorem expand_ok_rising :
    Rising fun n => (Plain fun s b => m.expand convention n s = .ok b :
      T → Progress E → TypeName → Progress E → Prop) :=
  rising_plain fun hij _ _ h => (expand_mono hij (h ▸ nofun)).trans h

theorem expand_error_rising :
    Rising fun n => (Plain fun s e => m.expand convention n s = .error (.failed e) :
      T → Progress E → ConversionError → Progress E → Prop) :=
  rising_plain fun hij _ _ h => (expand_mono hij (by rw [h]; exact nofun)).trans h

theorem Expands.step {t : T} {a : TypeName} (h : m.Expands convention t a) :
    ∃ q, m.Step (Plain (m.Expands convention)) m.HasName convention t .start a q := by
  obtain ⟨n, h⟩ := h
  cases n with
  | zero => cases h
  | succ n =>
    obtain ⟨q, h⟩ := (m.expandStep_eq_ok _ _ _).mp h
    exact ⟨q, h.mono (And.imp_left fun h => ⟨n, h⟩) fun hN => ⟨n, hN⟩⟩

theorem Refuses.step {t : T} {err : ConversionError} (h : m.Refuses convention t err) :
    ∃ q, m.Failure (Plain (m.Expands convention)) (Plain (m.Refuses convention)) m.HasName
      t .start err q := by
  obtain ⟨n, h⟩ := h
  cases n with
  | zero => cases h
  | succ n =>
    obtain ⟨q, h⟩ := (m.expandStep_eq_error _ _ _).mp h
    exact ⟨q, h.mono (And.imp_left fun h => ⟨n, h⟩) (And.imp_left fun h => ⟨n, h⟩)
      fun hN => ⟨n, hN⟩⟩

theorem Expands.of_step {t : T} {a : TypeName} {q : Progress E}
    (h : m.Step (Plain (m.Expands convention)) m.HasName convention t .start a q) :
    m.Expands convention t a := by
  have hx : m.Step (fun t p a q => ∃ n, Plain (fun s b => m.expand convention n s = .ok b) t p a q)
      m.HasName convention t .start a q :=
    h.mono (fun ⟨⟨n, h⟩, hq⟩ => ⟨n, h, hq⟩) id
  obtain ⟨n, hn⟩ := exists_step expand_ok_rising hx
  exact ⟨n + 1, (m.expandStep_eq_ok _ _ _).mpr ⟨q, hn⟩⟩

theorem Refuses.of_step {t : T} {err : ConversionError} {q : Progress E}
    (h : m.Failure (Plain (m.Expands convention)) (Plain (m.Refuses convention)) m.HasName
      t .start err q) : m.Refuses convention t err := by
  have hx : m.Failure
      (fun t p a q => ∃ n, Plain (fun s b => m.expand convention n s = .ok b) t p a q)
      (fun t p e q => ∃ n, Plain (fun s e => m.expand convention n s = .error (.failed e)) t p e q)
      m.HasName t .start err q :=
    h.mono (fun ⟨⟨n, h⟩, hq⟩ => ⟨n, h, hq⟩) (fun ⟨⟨n, h⟩, hq⟩ => ⟨n, h, hq⟩) id
  obtain ⟨n, hn⟩ := exists_failure expand_ok_rising expand_error_rising hx
  exact ⟨n + 1, (m.expandStep_eq_error _ _ _).mpr ⟨q, hn⟩⟩

end TypeModel

end JavaTypes
