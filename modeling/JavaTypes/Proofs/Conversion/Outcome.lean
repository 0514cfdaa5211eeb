import JavaTypes.Model.Convert

namespace JavaTypes

namespace Progress

variable {E : Type}

def emit (event : Event) (p : Progress E) : Progress E := { p with log := event :: p.log }

def met (kind : TypeKind) (p : Progress E) : Progress E := p.emit (.converting kind)

@[simp] theorem emit_log (event : Event) (p : Progress E) :
    (p.emit event).log = event :: p.log := rfl

variable [DecidableEq E]

def remember (e : E) (v : TypeVariable) (p : Progress E) : Progress E :=
  { p with memo := p.memo.put e v }

def forget (e : E) (p : Progress E) : Progress E := { p with memo := p.memo.erase e }

@[simp] theorem remember_get? (e f : E) (v : TypeVariable) (p : Progress E) :
    (p.remember e v).memo.get? f = if e = f then some v else p.memo.get? f :=
  p.memo.get?_put e f v

@[simp] theorem forget_get? (e f : E) (p : Progress E) :
    (p.forget e).memo.get? f = if e = f then none else p.memo.get? f :=
  p.memo.get?_erase e f

end Progress

namespace Conversion

variable {E α β : Type}

def outcome (x : Conversion E α) (p : Progress E) : Except Halt α × Progress E := x p

def Yields (x : Conversion E α) (p : Progress E) (a : α) (q : Progress E) : Prop :=
  x.outcome p = (.ok a, q)

def Fails (x : Conversion E α) (p : Progress E) (e : ConversionError) (q : Progress E) : Prop :=
  x.outcome p = (.error (.failed e), q)

theorem Yields.outcome_eq {x : Conversion E α} {p q : Progress E} {a : α} (h : x.Yields p a q) :
    x.outcome p = (.ok a, q) := h

theorem Fails.outcome_eq {x : Conversion E α} {p q : Progress E} {e : ConversionError}
    (h : x.Fails p e q) : x.outcome p = (.error (.failed e), q) := h

theorem outcome_cases {x : Conversion E α} {p : Progress E}
    (h : (x.outcome p).1 ≠ .error .exhausted) :
    (∃ a q, x.Yields p a q) ∨ ∃ e q, x.Fails p e q := by
  unfold Yields Fails
  generalize x.outcome p = o at h ⊢
  obtain ⟨r, q⟩ := o
  cases r with
  | ok a => exact .inl ⟨a, q, rfl⟩
  | error halt =>
    cases halt with
    | exhausted => exact absurd rfl h
    | failed e => exact .inr ⟨e, q, rfl⟩

@[simp] theorem yields_pure {a b : α} {p q : Progress E} :
    (pure a : Conversion E α).Yields p b q ↔ b = a ∧ q = p := by
  change (Except.ok a, p) = (Except.ok b, q) ↔ _
  rw [Prod.mk.injEq, Except.ok.injEq, eq_comm (a := a), eq_comm (a := p)]

@[simp] theorem fails_pure {a : α} {e : ConversionError} {p q : Progress E} :
    ¬ (pure a : Conversion E α).Fails p e q := by
  intro h
  cases congrArg Prod.fst (show (Except.ok a, p) = (Except.error (Halt.failed e), q) from h)

@[simp] theorem yields_throw {h : Halt} {a : α} {p q : Progress E} :
    ¬ (throw h : Conversion E α).Yields p a q := by
  intro hy
  cases congrArg Prod.fst (show (Except.error h, p) = (Except.ok a, q) from hy)

@[simp] theorem fails_throw {h : Halt} {e : ConversionError} {p q : Progress E} :
    (throw h : Conversion E α).Fails p e q ↔ h = .failed e ∧ q = p := by
  change (Except.error h, p) = (Except.error (Halt.failed e), q) ↔ _
  rw [Prod.mk.injEq, Except.error.injEq, eq_comm (a := p)]

theorem outcome_bind (x : Conversion E α) (f : α → Conversion E β) (p : Progress E) :
    (x >>= f).outcome p = match x.outcome p with
      | (.ok a, q) => (f a).outcome q
      | (.error h, q) => (.error h, q) := by
  change (ExceptT.bindCont f (x p).1) (x p).2 = _
  unfold outcome
  rcases x p with ⟨r, q⟩
  cases r <;> rfl

@[simp] theorem yields_bind {x : Conversion E α} {f : α → Conversion E β} {b : β}
    {p r : Progress E} :
    (x >>= f).Yields p b r ↔ ∃ a q, x.Yields p a q ∧ (f a).Yields q b r := by
  unfold Yields
  rw [outcome_bind]
  rcases x.outcome p with ⟨v, q⟩
  cases v with
  | error h => simp
  | ok a => simp [and_assoc]

@[simp] theorem fails_bind {x : Conversion E α} {f : α → Conversion E β} {e : ConversionError}
    {p r : Progress E} :
    (x >>= f).Fails p e r ↔ x.Fails p e r ∨ ∃ a q, x.Yields p a q ∧ (f a).Fails q e r := by
  unfold Yields Fails
  rw [outcome_bind]
  rcases x.outcome p with ⟨v, q⟩
  cases v with
  | error h => simp
  | ok a => simp [and_assoc]

@[simp] theorem yields_invalid {fault : InputFault} {a : α} {p q : Progress E} :
    ¬ (invalid fault : Conversion E α).Yields p a q := yields_throw

@[simp] theorem fails_invalid {fault : InputFault} {e : ConversionError} {p q : Progress E} :
    (invalid fault : Conversion E α).Fails p e q ↔ e = .invalidInput fault ∧ q = p := by
  unfold invalid
  rw [fails_throw, Halt.failed.injEq, eq_comm]

theorem yields_modify {f : Progress E → Progress E} {u : Unit} {p q : Progress E} :
    (modify f : Conversion E Unit).Yields p u q ↔ q = f p := by
  change (Except.ok (), f p) = (Except.ok u, q) ↔ _
  simp [eq_comm]

theorem fails_modify {f : Progress E → Progress E} {e : ConversionError} {p q : Progress E} :
    ¬ (modify f : Conversion E Unit).Fails p e q := by
  intro h
  cases congrArg Prod.fst (show (Except.ok (), f p) = (Except.error (Halt.failed e), q) from h)

@[simp] theorem yields_emit {event : Event} {u : Unit} {p q : Progress E} :
    (emit event).Yields p u q ↔ q = p.emit event := yields_modify

@[simp] theorem fails_emit {event : Event} {e : ConversionError} {p q : Progress E} :
    ¬ (emit event).Fails p e q := fails_modify

@[simp] theorem yields_ofExcept {x : Except Halt α} {a : α} {p q : Progress E} :
    (ofExcept x : Conversion E α).Yields p a q ↔ x = .ok a ∧ q = p := by
  cases x with
  | error h => simp [ofExcept]
  | ok b => simp [ofExcept, eq_comm]

@[simp] theorem fails_ofExcept {x : Except Halt α} {e : ConversionError} {p q : Progress E} :
    (ofExcept x : Conversion E α).Fails p e q ↔ x = .error (.failed e) ∧ q = p := by
  cases x with
  | error h => simp [ofExcept]
  | ok b => simp [ofExcept]

theorem outcome_tryCatch (x : Conversion E α) (f : Halt → Conversion E α) (p : Progress E) :
    (tryCatch x f).outcome p = match x.outcome p with
      | (.ok a, q) => (.ok a, q)
      | (.error h, q) => (f h).outcome q := by
  simp only [outcome, tryCatch, tryCatchThe, MonadExceptOf.tryCatch, ExceptT.tryCatch, ExceptT.mk,
    bind, StateT.bind]
  rcases x p with ⟨r, q⟩
  cases r <;> rfl

section

variable [DecidableEq E]

@[simp] theorem yields_known? {e : E} {v : Option TypeVariable} {p q : Progress E} :
    (known? e).Yields p v q ↔ v = p.memo.get? e ∧ q = p := by
  change (Except.ok (p.memo.get? e), p) = (Except.ok v, q) ↔ _
  rw [Prod.mk.injEq, Except.ok.injEq, eq_comm (b := v), eq_comm (b := q)]

@[simp] theorem fails_known? {e : E} {err : ConversionError} {p q : Progress E} :
    ¬ (known? e).Fails p err q := by
  intro h
  cases congrArg Prod.fst
    (show (Except.ok (p.memo.get? e), p) = (Except.error (Halt.failed err), q) from h)

@[simp] theorem yields_remember {e : E} {v : TypeVariable} {u : Unit} {p q : Progress E} :
    (remember e v).Yields p u q ↔ q = p.remember e v := yields_modify

@[simp] theorem fails_remember {e : E} {v : TypeVariable} {err : ConversionError}
    {p q : Progress E} : ¬ (remember e v).Fails p err q := fails_modify

theorem outcome_forget_throw (e : E) (h : Halt) (p : Progress E) :
    (do forget e; throw h : Conversion E α).outcome p = (.error h, p.forget e) := rfl

@[simp] theorem yields_forgetting {x : Conversion E α} {e : E} {a : α} {p q : Progress E} :
    (tryCatch x fun halt => do forget e; throw halt).Yields p a q ↔ x.Yields p a q := by
  unfold Yields
  rw [outcome_tryCatch]
  rcases x.outcome p with ⟨r, p'⟩
  cases r <;> simp [outcome_forget_throw]

@[simp] theorem fails_forgetting {x : Conversion E α} {e : E} {err : ConversionError}
    {p q : Progress E} :
    (tryCatch x fun halt => do forget e; throw halt).Fails p err q ↔
      ∃ p', x.Fails p err p' ∧ q = p'.forget e := by
  unfold Fails
  rw [outcome_tryCatch]
  rcases x.outcome p with ⟨r, p'⟩
  cases r <;> simp [outcome_forget_throw, and_assoc, eq_comm]

end

end Conversion

/-- A run over a list, one member after the other, in which every member has a value. -/
inductive Each {α β σ : Type} (R : α → σ → β → σ → Prop) : List α → σ → List β → σ → Prop
  | nil (p : σ) : Each R [] p [] p
  | cons {x xs a as p q r} (h : R x p a q) (hs : Each R xs q as r) : Each R (x :: xs) p (a :: as) r

inductive Halts {α β ε σ : Type} (R : α → σ → β → σ → Prop) (F : α → σ → ε → σ → Prop) :
    List α → σ → ε → σ → Prop
  | here {x xs e p q} (h : F x p e q) : Halts R F (x :: xs) p e q
  | later {x xs a e p q r} (h : R x p a q) (hs : Halts R F xs q e r) : Halts R F (x :: xs) p e r

namespace Conversion

variable {E T α : Type}

@[simp] theorem yields_mapM {f : T → Conversion E α} {ts : List T} {as : List α}
    {p r : Progress E} :
    (ts.mapM f).Yields p as r ↔ Each (fun t => (f t).Yields) ts p as r := by
  induction ts generalizing p as r with
  | nil =>
    rw [List.mapM_nil, yields_pure]
    constructor
    · rintro ⟨rfl, rfl⟩
      exact .nil _
    · intro h
      cases h
      exact ⟨rfl, rfl⟩
  | cons t ts ih =>
    simp only [List.mapM_cons, yields_bind, yields_pure, ih]
    constructor
    · rintro ⟨a, q, h, bs, _, hs, rfl, rfl⟩
      exact .cons h hs
    · intro h
      cases h with
      | cons h hs => exact ⟨_, _, h, _, _, hs, rfl, rfl⟩

@[simp] theorem fails_mapM {f : T → Conversion E α} {ts : List T} {e : ConversionError}
    {p r : Progress E} :
    (ts.mapM f).Fails p e r ↔
      Halts (fun t => (f t).Yields) (fun t => (f t).Fails) ts p e r := by
  induction ts generalizing p with
  | nil =>
    rw [List.mapM_nil]
    constructor
    · intro h
      exact absurd h fails_pure
    · intro h
      cases h
  | cons t ts ih =>
    simp only [List.mapM_cons, fails_bind, fails_pure, ih]
    constructor
    · rintro (h | ⟨a, q, h, hs | ⟨_, _, _, hf⟩⟩)
      · exact .here h
      · exact .later h hs
      · exact hf.elim
    · intro h
      cases h with
      | here h => exact .inl h
      | later h hs => exact .inr ⟨_, _, h, .inl hs⟩

end Conversion

end JavaTypes
