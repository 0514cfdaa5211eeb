import JavaTypes.TypeName.Dimensions
import JavaTypes.TypeName.Render
import JavaTypes.Proofs.ClassName.CanonicalName

/-!
Rendered types read back. Where variables and intersections are left out and each class comes back
from its canonical name, no two types are written alike: a text begins with one name, arguments are
told apart by the brackets around them, and dimensions come last.
-/

namespace JavaTypes

open Text

def keywords : List String := "void" :: "null" :: Primitive.all.map Primitive.keyword

theorem keyword_mem_keywords (p : Primitive) : p.keyword ∈ keywords := by
  have hp : p.keyword ∈ Primitive.all.map Primitive.keyword := List.mem_map_of_mem p.mem_all
  exact List.mem_cons_of_mem _ (List.mem_cons_of_mem _ hp)

/-- Its canonical name stands for this class and for nothing else. -/
def ClassName.Evident (c : ClassName) : Prop :=
  ClassName.parse c.canonicalName = .ok c ∧ c.canonicalName ∉ keywords

def isNamePart (c : Char) : Bool := isIdentifierPart c || c == '.'

theorem isNamePart_of_mem_keywords {k : String} (h : k ∈ keywords) :
    ∀ a ∈ k.toList, isNamePart a = true := by
  have hall : keywords.all (fun k => k.toList.all isNamePart) = true := by decide
  exact List.all_eq_true.mp (List.all_eq_true.mp hall k h)

theorem isNamePart_of_mem_canonicalName {c : ClassName} (h : c.Valid) :
    ∀ a ∈ c.canonicalName.toList, isNamePart a = true := by
  intro a ha
  unfold isNamePart
  obtain rfl | ⟨n, hn, han⟩ := mem_joined ha
  · rfl
  · have hid : isIdentifier n = true := (List.mem_append.mp hn).elim (h.1 n) (h.2 n)
    rw [isIdentifierPart_of_mem hid a han, Bool.true_or]

namespace TypeName

inductive Plain : TypeName → Prop
  | primitive (p : Primitive) : Plain (.primitive p)
  | void : Plain .void
  | null : Plain .null
  | named {c : ClassName} (hc : c.Evident) : Plain (.named c)
  | array {component : TypeName} (h : Plain component) : Plain (.array component)
  | parameterized {raw : ClassName} {arguments : List TypeName} (hc : raw.Evident)
      (hn : arguments ≠ []) (h : ∀ a ∈ arguments, Plain a) : Plain (.parameterized raw arguments)

section Arrays

def brackets (n : Nat) : List Char := (List.replicate n ['[', ']']).flatten

theorem brackets_succ (n : Nat) : brackets (n + 1) = '[' :: ']' :: brackets n := by
  simp [brackets, List.replicate_succ]

theorem brackets_succ' (n : Nat) : brackets (n + 1) = brackets n ++ ['[', ']'] := by
  simp [brackets, List.replicate_succ']

theorem brackets_append_inj {n m : Nat} {r r' : List Char} (hr : r.head? ≠ some '[')
    (hr' : r'.head? ≠ some '[') (h : brackets n ++ r = brackets m ++ r') : n = m ∧ r = r' := by
  induction n generalizing m with
  | zero =>
    cases m with
    | zero => exact ⟨rfl, h⟩
    | succ m =>
      have hb : r = '[' :: ']' :: (brackets m ++ r') := by rwa [brackets_succ] at h
      exact absurd (by rw [hb]; rfl) hr
  | succ n ih =>
    cases m with
    | zero =>
      have hb : '[' :: ']' :: (brackets n ++ r) = r' := by rwa [brackets_succ] at h
      exact absurd (by rw [← hb]; rfl) hr'
    | succ m =>
      rw [brackets_succ, brackets_succ] at h
      obtain ⟨rfl, rfl⟩ := ih (List.cons.inj (List.cons.inj h).2).2
      exact ⟨rfl, rfl⟩

theorem toList_render_arrayOf (n : Nat) (t : TypeName) :
    (arrayOf n t).render.toList = t.render.toList ++ brackets n := by
  induction n with
  | zero => simp [arrayOf, brackets]
  | succ n ih =>
    rw [arrayOf, render, String.toList_append, ih, List.append_assoc, brackets_succ']
    rfl

theorem Plain.elementType {t : TypeName} (h : t.Plain) : t.elementType.Plain := by
  induction h with
  | array _ ih => exact ih
  | primitive p => exact .primitive p
  | void => exact .void
  | null => exact .null
  | named hc => exact .named hc
  | parameterized hc hn h => exact .parameterized hc hn h

end Arrays

section Names

def heading : TypeName → String
  | primitive p => p.keyword
  | void => "void"
  | null => "null"
  | named c => c.canonicalName
  | parameterized raw _ => raw.canonicalName
  | _ => ""

def appendix : TypeName → List Char
  | parameterized _ arguments => '<' :: ((", ".intercalate (arguments.map render)).toList ++ ['>'])
  | _ => []

def ofHeading? (s : String) : Option TypeName :=
  if s = "void" then some void
  else if s = "null" then some null
  else match Primitive.ofKeyword? s with
    | some p => some (primitive p)
    | none => (ClassName.parse s).toOption.map named

def erased : TypeName → TypeName
  | parameterized raw _ => named raw
  | t => t

theorem erased_cases (t : TypeName) :
    t.erased = t ∧ t.appendix = [] ∨ ∃ raw arguments, t = parameterized raw arguments := by
  cases t with
  | parameterized raw arguments => exact .inr ⟨raw, arguments, rfl⟩
  | _ => exact .inl ⟨rfl, rfl⟩

theorem ofHeading?_canonicalName {c : ClassName} (h : c.Evident) :
    ofHeading? c.canonicalName = some (named c) := by
  obtain ⟨hparse, hk⟩ := h
  have hv : c.canonicalName ≠ "void" := fun hv => hk (by simp [keywords, hv])
  have hn : c.canonicalName ≠ "null" := fun hn => hk (by simp [keywords, hn])
  have hp : Primitive.ofKeyword? c.canonicalName = none := by
    apply Primitive.ofKeyword?_eq_none
    intro p hp
    exact hk (hp ▸ keyword_mem_keywords p)
  rw [ofHeading?, if_neg hv, if_neg hn, hp, hparse]
  rfl

variable {t : TypeName}

theorem Plain.ofHeading?_heading (h : t.Plain) (ha : t.isArray = false) :
    ofHeading? t.heading = some t.erased := by
  cases h with
  | primitive p => cases p <;> rfl
  | void => rfl
  | null => rfl
  | named hc => exact ofHeading?_canonicalName hc
  | array _ => cases ha
  | parameterized hc => exact ofHeading?_canonicalName hc

theorem Plain.isNamePart_of_mem_heading (h : t.Plain) (ha : t.isArray = false) :
    ∀ c ∈ t.heading.toList, isNamePart c = true := by
  cases h with
  | primitive p => exact isNamePart_of_mem_keywords (keyword_mem_keywords p)
  | void => exact isNamePart_of_mem_keywords (by decide)
  | null => exact isNamePart_of_mem_keywords (by decide)
  | named hc => exact isNamePart_of_mem_canonicalName (ClassName.parse_valid hc.1)
  | array _ => cases ha
  | parameterized hc => exact isNamePart_of_mem_canonicalName (ClassName.parse_valid hc.1)

theorem Plain.toList_render (h : t.Plain) (ha : t.isArray = false) :
    t.render.toList = t.heading.toList ++ t.appendix := by
  cases h with
  | array _ => cases ha
  | parameterized =>
    simp [render, heading, appendix, String.toList_append]
  | _ => simp [render, heading, appendix]

end Names

section Readings

variable {r r' : List Char} {s t : TypeName}

def Stops (r : List Char) : Prop := ∀ c, r.head? = some c → isNamePart c = false ∧ c ≠ '<'

def Ends (r : List Char) : Prop := ∀ c, r.head? = some c → c = ',' ∨ c = '>'

theorem Stops.ne_cons (h : Stops r) (x : List Char) : r ≠ '<' :: x := by
  rintro rfl
  exact (h '<' rfl).2 rfl

theorem Ends.head?_ne (h : Ends r) : r.head? ≠ some '[' := by
  intro hr
  have hc := h '[' hr
  simp at hc

theorem Ends.stops (h : Ends r) (n : Nat) : Stops (brackets n ++ r) := by
  intro c hc
  cases n with
  | zero =>
    obtain rfl | rfl := h c hc
    · decide
    · decide
  | succ n =>
    rw [brackets_succ] at hc
    cases hc
    decide

/-- A text that begins with this type and then ends tells the type and the rest. -/
def Told (s : TypeName) : Prop :=
  ∀ t r r', t.Plain → Ends r → Ends r' → s.render.toList ++ r = t.render.toList ++ r' →
    s = t ∧ r = r'

def ElementTold (s : TypeName) : Prop :=
  ∀ t r r', t.Plain → t.isArray = false → Stops r → Stops r' →
    s.render.toList ++ r = t.render.toList ++ r' → s = t ∧ r = r'

theorem told_of_elementType (h : ElementTold s.elementType) : Told s := by
  intro t r r' ht hr hr' he
  rw [← arrayOf_dimensions_elementType s, ← arrayOf_dimensions_elementType t,
    toList_render_arrayOf, toList_render_arrayOf, List.append_assoc, List.append_assoc] at he
  obtain ⟨helement, hrest⟩ := h _ _ _ ht.elementType t.isArray_elementType
    (hr.stops s.dimensions) (hr'.stops t.dimensions) he
  obtain ⟨hd, rfl⟩ := brackets_append_inj hr.head?_ne hr'.head?_ne hrest
  refine ⟨?_, rfl⟩
  rw [← arrayOf_dimensions_elementType s, hd, helement, arrayOf_dimensions_elementType]

def others : List TypeName → List Char
  | [] => []
  | t :: ts => ',' :: ' ' :: (t.render.toList ++ others ts)

theorem toList_intercalate (t : TypeName) (ts : List TypeName) :
    (", ".intercalate ((t :: ts).map render)).toList = t.render.toList ++ others ts := by
  induction ts generalizing t with
  | nil => simp [others]
  | cons u ts ih =>
    have hu := ih u
    rw [List.map_cons] at hu
    rw [List.map_cons, List.map_cons, String.intercalate_cons_cons, String.toList_append, hu,
      String.toList_append, others, List.append_assoc]
    rfl

theorem ends_others (ts : List TypeName) (r : List Char) : Ends (others ts ++ '>' :: r) := by
  intro c hc
  cases ts with
  | nil =>
    cases hc
    exact .inr rfl
  | cons t ts =>
    cases hc
    exact .inl rfl

theorem others_told {ss ts : List TypeName} (hs : ∀ s ∈ ss, s.Told) (ht : ∀ t ∈ ts, t.Plain)
    (h : others ss ++ '>' :: r = others ts ++ '>' :: r') : ss = ts ∧ r = r' := by
  induction ss generalizing ts with
  | nil =>
    cases ts with
    | nil => exact ⟨rfl, (List.cons.inj h).2⟩
    | cons t ts => exact absurd (List.cons.inj h).1 (by decide)
  | cons s ss ih =>
    cases ts with
    | nil => exact absurd (List.cons.inj h).1 (by decide)
    | cons t ts =>
      have hcut : s.render.toList ++ (others ss ++ '>' :: r) =
          t.render.toList ++ (others ts ++ '>' :: r') := by simpa [others] using h
      obtain ⟨rfl, hrest⟩ := hs s List.mem_cons_self t _ _ (ht t List.mem_cons_self)
        (ends_others ss r) (ends_others ts r') hcut
      obtain ⟨rfl, rfl⟩ := ih (fun u hu => hs u (List.mem_cons_of_mem _ hu))
        (fun u hu => ht u (List.mem_cons_of_mem _ hu)) hrest
      exact ⟨rfl, rfl⟩

theorem arguments_told {ss ts : List TypeName} (hss : ss ≠ []) (hts : ts ≠ [])
    (hs : ∀ s ∈ ss, s.Told) (ht : ∀ t ∈ ts, t.Plain)
    (h : (", ".intercalate (ss.map render)).toList ++ '>' :: r =
      (", ".intercalate (ts.map render)).toList ++ '>' :: r') : ss = ts ∧ r = r' := by
  obtain ⟨s, ss, rfl⟩ := List.exists_cons_of_ne_nil hss
  obtain ⟨t, ts, rfl⟩ := List.exists_cons_of_ne_nil hts
  rw [toList_intercalate, toList_intercalate] at h
  apply others_told hs ht
  simpa [others] using h

theorem Plain.appendix_stops (h : t.Plain) (hr : Stops r) :
    ∀ c, (t.appendix ++ r).head? = some c → isNamePart c = false := by
  intro c hc
  cases h with
  | parameterized =>
    cases hc
    decide
  | _ => exact (hr c hc).1

theorem eq_of_erased_eq (h : s.Plain) (ht : t.Plain) (hs : ∀ a ∈ s.children, a.Told)
    (hr : Stops r) (hr' : Stops r') (he : s.erased = t.erased)
    (hrest : s.appendix ++ r = t.appendix ++ r') : s = t ∧ r = r' := by
  obtain ⟨hes, has⟩ | ⟨raw, ss, rfl⟩ := s.erased_cases
  · obtain ⟨het, hat⟩ | ⟨raw', ts, rfl⟩ := t.erased_cases
    · rw [has, hat] at hrest
      rw [hes, het] at he
      exact ⟨he, hrest⟩
    · rw [has] at hrest
      exact absurd hrest (hr.ne_cons _)
  · obtain ⟨het, hat⟩ | ⟨raw', ts, rfl⟩ := t.erased_cases
    · rw [hat] at hrest
      exact absurd hrest.symm (hr'.ne_cons _)
    · have hraw : raw = raw' := named.inj he
      cases h with
      | parameterized _ hss _ =>
        cases ht with
        | parameterized _ hts hplain =>
          have hargs : (", ".intercalate (ss.map render)).toList ++ '>' :: r =
              (", ".intercalate (ts.map render)).toList ++ '>' :: r' := by
            simpa [appendix] using hrest
          obtain ⟨hst, hrr⟩ := arguments_told hss hts hs hplain hargs
          exact ⟨by rw [hraw, hst], hrr⟩

theorem elementTold_of_children (h : s.Plain) (ha : s.isArray = false)
    (hs : ∀ a ∈ s.children, a.Told) : s.ElementTold := by
  intro t r r' ht hta hr hr' he
  rw [h.toList_render ha, ht.toList_render hta, List.append_assoc, List.append_assoc] at he
  obtain ⟨hheading, hrest⟩ := append_inj_of_forall (h.isNamePart_of_mem_heading ha)
    (ht.isNamePart_of_mem_heading hta) (h.appendix_stops hr) (ht.appendix_stops hr') he
  have herased : some s.erased = some t.erased := by
    rw [← h.ofHeading?_heading ha, ← ht.ofHeading?_heading hta, String.toList_inj.mp hheading]
  exact eq_of_erased_eq h ht hs hr hr' (Option.some.inj herased) hrest

theorem Plain.elementTold (h : s.Plain) : s.elementType.ElementTold := by
  -- The induction is about the element type: dimensions could belong to what follows an array.
  induction h with
  | array _ ih => exact ih
  | parameterized hc hn h ih =>
    apply elementTold_of_children (.parameterized hc hn h) rfl
    intro a ha
    exact told_of_elementType (ih a ha)
  | primitive p => exact elementTold_of_children (.primitive p) rfl fun _ ha => nomatch ha
  | void => exact elementTold_of_children .void rfl fun _ ha => nomatch ha
  | null => exact elementTold_of_children .null rfl fun _ ha => nomatch ha
  | named hc => exact elementTold_of_children (.named hc) rfl fun _ ha => nomatch ha

end Readings

theorem eq_of_render_eq {s t : TypeName} (hs : s.Plain) (ht : t.Plain)
    (h : s.render = t.render) : s = t := by
  have hnil : Ends [] := by
    intro c hc
    cases hc
  have he : s.render.toList ++ [] = t.render.toList ++ [] := by rw [h]
  exact (told_of_elementType hs.elementTold t [] [] ht hnil hnil he).1

def mapsOfArrays : TypeName :=
  array (parameterized (.javaLang "Map") [array (primitive .int), named .voidClass])

def mapsToArrays : TypeName :=
  array (parameterized (.javaLang "Map") [primitive .int, array (named .voidClass)])

theorem maps_told_apart :
    mapsOfArrays.Plain ∧ mapsToArrays.Plain ∧ mapsOfArrays.render ≠ mapsToArrays.render ∧
      (arrayOf 2 .void).Plain ∧ (arrayOf 2 .void).render = (array (array .void)).render ∧
      arrayOf 2 .void = array (array .void) := by
  have hm : (ClassName.javaLang "Map").Evident := ⟨by rfl, by decide⟩
  have hv : ClassName.voidClass.Evident := ⟨by rfl, by decide⟩
  have hof : mapsOfArrays.Plain := by
    refine .array (.parameterized hm (by simp) ?_)
    simpa using ⟨.array (.primitive .int), .named hv⟩
  have hto : mapsToArrays.Plain := by
    refine .array (.parameterized hm (by simp) ?_)
    simpa using ⟨.primitive .int, .array (.named hv)⟩
  have hvoid : (arrayOf 2 .void).Plain := .array (.array .void)
  refine ⟨hof, hto, fun h => ?_, hvoid, rfl, eq_of_render_eq hvoid (.array (.array .void)) rfl⟩
  have he : mapsOfArrays = mapsToArrays := eq_of_render_eq hof hto h
  exact absurd he (by decide)

end TypeName

end JavaTypes
