import JavaTypes.NameError

namespace JavaTypes

/-- The members of an object keep the order in which they were written. -/
inductive Json where
  | null
  | bool (b : Bool)
  | number (mantissa : Int) (places : Nat)
  | str (s : String)
  | arr (items : List Json)
  | obj (members : List (String × Json))
  deriving Repr, Inhabited

inductive DecodeError where
  | form
  | refused (e : NameError)
  deriving DecidableEq, Repr

namespace Json

@[elab_as_elim, induction_eliminator]
theorem induct {motive : Json → Prop}
    (null : motive .null)
    (bool : ∀ b, motive (.bool b))
    (number : ∀ mantissa places, motive (.number mantissa places))
    (str : ∀ s, motive (.str s))
    (arr : ∀ items, (∀ j ∈ items, motive j) → motive (.arr items))
    (obj : ∀ members, (∀ m ∈ members, motive m.2) → motive (.obj members)) :
    ∀ j, motive j :=
  @Json.rec motive (fun items => ∀ j ∈ items, motive j) (fun members => ∀ m ∈ members, motive m.2)
    (fun m => motive m.2) null bool number str arr obj
    (fun _ h => nomatch h)
    (fun _ _ ihHead ihTail j h => by
      cases h with
      | head => exact ihHead
      | tail _ h => exact ihTail j h)
    (fun _ h => nomatch h)
    (fun _ _ ihHead ihTail m h => by
      cases h with
      | head => exact ihHead
      | tail _ h => exact ihTail m h)
    fun _ _ ih => ih

def text : Json → Except DecodeError String
  | str s => .ok s
  | _ => .error .form

def variant : Json → Except DecodeError String
  | str s => .ok s
  | obj [(s, null)] => .ok s
  | _ => .error .form

def items : Json → Except DecodeError (List Json)
  | arr items => .ok items
  | _ => .error .form

def texts (j : Json) : Except DecodeError (List String) := do (← j.items).mapM text

end Json

end JavaTypes
