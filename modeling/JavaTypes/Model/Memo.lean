import JavaTypes.TypeName.Basic

namespace JavaTypes

abbrev Memo (E : Type) := List (E × TypeVariable)

namespace Memo

variable {E : Type} [DecidableEq E]

def get? (memo : Memo E) (e : E) : Option TypeVariable :=
  (memo.find? (·.1 = e)).map (·.2)

def erase (memo : Memo E) (e : E) : Memo E := memo.filter (·.1 ≠ e)

def put (memo : Memo E) (e : E) (v : TypeVariable) : Memo E := (e, v) :: erase memo e

@[simp] theorem get?_nil (e : E) : get? [] e = none := rfl

theorem get?_cons (f e : E) (v : TypeVariable) (memo : Memo E) :
    get? ((f, v) :: memo) e = if f = e then some v else get? memo e := by
  by_cases h : f = e <;> simp [get?, h]

theorem get?_erase (memo : Memo E) (f e : E) :
    (memo.erase f).get? e = if f = e then none else memo.get? e := by
  induction memo with
  | nil => simp [erase]
  | cons entry memo ih =>
    obtain ⟨g, v⟩ := entry
    by_cases hg : g = f
    · subst hg
      have he : erase ((g, v) :: memo) g = erase memo g := by simp [erase]
      rw [he, ih, get?_cons]
      by_cases h : g = e <;> simp [h]
    · have he : erase ((g, v) :: memo) f = (g, v) :: erase memo f := by simp [erase, hg]
      rw [he, get?_cons, get?_cons, ih]
      by_cases h : g = e
      · have : f ≠ e := fun hf => hg (h.trans hf.symm)
        simp [h, this]
      · simp [h]

theorem get?_put (memo : Memo E) (f e : E) (v : TypeVariable) :
    (memo.put f v).get? e = if f = e then some v else memo.get? e := by
  rw [put, get?_cons, get?_erase]
  by_cases h : f = e <;> simp [h]

end Memo

end JavaTypes
