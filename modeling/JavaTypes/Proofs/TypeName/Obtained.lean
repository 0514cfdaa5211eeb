import JavaTypes.ClassName.Navigation
import JavaTypes.Resolved
import JavaTypes.TypeName.Dimensions
import JavaTypes.Proofs.Conversion.Tables
import JavaTypes.Proofs.Conversion.Validity
import JavaTypes.Proofs.Json.Decoding

namespace JavaTypes

inductive Name where
  | ofClass (c : ClassName)
  | ofType (t : TypeName)
  deriving DecidableEq, Repr

def Name.Valid : Name → Prop
  | ofClass c => c.Valid
  | ofType t => t.Valid

instance (n : Name) : Decidable n.Valid := by
  cases n <;> unfold Name.Valid <;> infer_instance

/-- What one operation yields to a caller who holds certain names. -/
inductive Produces (holds : Name → Prop) : Name → Prop
  | new {package enclosing simpleName c} (h : ClassName.new package enclosing simpleName = .ok c) :
      Produces holds (.ofClass c)
  | parse {s c} (h : ClassName.parse s = .ok c) : Produces holds (.ofClass c)
  | ofBinaryName {s c} (h : ClassName.ofBinaryName s = .ok c) : Produces holds (.ofClass c)
  | object : Produces holds (.ofClass .object)
  | voidClass : Produces holds (.ofClass .voidClass)
  | boxed (p : Primitive) : Produces holds (.ofClass p.boxed)
  | enclosing {c d} (hc : holds (.ofClass c)) (h : c.enclosingClass? = some d) :
      Produces holds (.ofClass d)
  | topLevel {c} (hc : holds (.ofClass c)) : Produces holds (.ofClass c.topLevelClass)
  | nested {c d simpleName} (hc : holds (.ofClass c)) (h : c.nested simpleName = .ok d) :
      Produces holds (.ofClass d)
  | peer {c d simpleName} (hc : holds (.ofClass c)) (h : c.peer simpleName = .ok d) :
      Produces holds (.ofClass d)
  | primitive (p) : Produces holds (.ofType (.primitive p))
  | void : Produces holds (.ofType .void)
  | null : Produces holds (.ofType .null)
  | named {c} (hc : holds (.ofClass c)) : Produces holds (.ofType (.named c))
  | arrayOf {t} (n) (ht : holds (.ofType t)) : Produces holds (.ofType (t.arrayOf n))
  | applied {raw arguments t} (hr : holds (.ofClass raw))
      (ha : ∀ a ∈ arguments, holds (.ofType a)) (h : TypeName.applied raw arguments = .ok t) :
      Produces holds (.ofType t)
  | typeVariable {bounds} (name) (hb : ∀ b ∈ bounds, holds (.ofType b)) :
      Produces holds (.ofType (.typeVariable name bounds))
  | meet {bounds t} (hb : ∀ b ∈ bounds, holds (.ofType b)) (h : TypeName.meet bounds = .ok t) :
      Produces holds (.ofType t)
  | child {s t} (ht : holds (.ofType t)) (h : s ∈ t.children) : Produces holds (.ofType s)
  | elementType {t} (ht : holds (.ofType t)) : Produces holds (.ofType t.elementType)
  | node {n t} (ht : holds (.ofType t)) (h : n ∈ t.nodes) : Produces holds (.ofType n)
  | classOf {t c} (ht : holds (.ofType t)) (h : t.class? = some c) : Produces holds (.ofClass c)
  | referenced {t c} (ht : holds (.ofType t)) (h : c ∈ t.referencedClasses) :
      Produces holds (.ofClass c)
  | classOfJson {j c} (h : ClassName.ofJson j = .ok c) : Produces holds (.ofClass c)
  | typeOfJson {j t} (h : TypeName.ofJson j = .ok t) : Produces holds (.ofType t)
  | valueOfJson {tag j t} (h : TypeName.readValue tag j = .ok t) : Produces holds (.ofType t)
  | converted {T E : Type} [DecidableEq E] {m : TypeModel T E} {settings n t a}
      (h : (m.report settings n t).result = .ok a) : Produces holds (.ofType a)
  | resolved {r t} (h : ResolvedClass.typeName r = .ok t) : Produces holds (.ofType t)

inductive Obtained : List Name → Prop
  | start : Obtained []
  | step {names name} (hs : Obtained names) (h : Produces (· ∈ names) name) :
      Obtained (name :: names)

namespace TypeName

theorem arrayOf_valid {t : TypeName} (h : t.Valid) (n : Nat) : (t.arrayOf n).Valid := by
  induction n with
  | zero => exact h
  | succ n ih => exact valid_array.mpr ih

theorem elementType_valid {t : TypeName} (h : t.Valid) : t.elementType.Valid := by
  induction t with
  | array component ih => exact ih (valid_array.mp h)
  | _ => exact h

theorem class_valid {t : TypeName} (h : t.Valid) {c : ClassName} (hc : t.class? = some c) :
    c.Valid := by
  cases t with
  | named d =>
    cases hc
    exact valid_named.mp h
  | parameterized raw arguments =>
    cases hc
    exact (valid_parameterized.mp h).1.1
  | _ => cases hc

theorem referencedClasses_valid {t : TypeName} (h : t.Valid) :
    ∀ c ∈ t.referencedClasses, c.Valid := by
  intro c hc
  obtain ⟨n, hn, hc⟩ := mem_referencedClasses.mp hc
  exact class_valid (h.node n hn) hc

end TypeName

theorem ResolvedClass.typeName_valid {r : ResolvedClass} {t : TypeName} (h : r.typeName = .ok t) :
    t.Valid := by
  fun_induction typeName r generalizing t with
  | case1 p name component =>
    cases h
    simp
  | case2 name component =>
    cases h
    simp
  | case3 name component ih =>
    obtain ⟨s, hs, rfl⟩ := map_eq_ok.mp h
    exact TypeName.valid_array.mpr (ih hs)
  | case4 name => cases h
  | case5 name component hn => cases h
  | case6 name component hn =>
    obtain ⟨c, hc, rfl⟩ := map_eq_ok.mp (mapError_eq_ok.mp h)
    exact TypeName.valid_named.mpr (ClassName.ofBinaryName_valid hc)

theorem TypeModel.report_valid {T E : Type} [DecidableEq E] {m : TypeModel T E}
    {settings : Settings} {n : Nat} {t : T} {a : TypeName}
    (h : (m.report settings n t).result = .ok a) : a.Valid := by
  obtain ⟨q, hy⟩ := report_ok h
  have hs : m.Succeeds (settings.effective m.convention) t .start a q := ⟨n, hy⟩
  exact hs.valid

theorem Produces.valid {holds : Name → Prop} {name : Name} (h : Produces holds name)
    (hv : ∀ n, holds n → n.Valid) : name.Valid := by
  cases h with
  | new h => exact ClassName.make_valid h
  | parse h => exact ClassName.parse_valid h
  | ofBinaryName h => exact ClassName.ofBinaryName_valid h
  | object => exact ClassName.object_valid
  | voidClass => exact ClassName.voidClass_valid
  | boxed p => exact p.boxed_valid
  | enclosing hc h => exact ClassName.enclosingClass?_valid (hv _ hc) h
  | topLevel hc => exact ClassName.topLevelClass_valid (hv _ hc)
  | nested hc h => exact ClassName.make_valid h
  | peer hc h => exact ClassName.make_valid h
  | primitive p => exact TypeName.valid_primitive p
  | void => exact TypeName.valid_void
  | null => exact TypeName.valid_null
  | named hc => exact TypeName.valid_named.mpr (hv _ hc)
  | arrayOf n ht => exact TypeName.arrayOf_valid (hv _ ht) n
  | applied hr ha h =>
    obtain ⟨hne, rfl⟩ := TypeName.applied_eq_ok_iff.mp h
    exact TypeName.valid_parameterized.mpr ⟨⟨hv _ hr, hne⟩, fun a hm => hv _ (ha a hm)⟩
  | typeVariable name hb => exact TypeName.valid_typeVariable.mpr fun b hm => hv _ (hb b hm)
  | meet hb h =>
    obtain ⟨hl, rfl⟩ := TypeName.meet_eq_ok_iff.mp h
    exact TypeName.valid_intersection.mpr ⟨hl, fun b hm => hv _ (hb b hm)⟩
  | child ht h => exact ((TypeName.valid_iff _).mp (hv _ ht)).2 _ h
  | elementType ht => exact TypeName.elementType_valid (hv _ ht)
  | node ht h => exact TypeName.Valid.node (hv _ ht) _ h
  | classOf ht h => exact TypeName.class_valid (hv _ ht) h
  | referenced ht h => exact TypeName.referencedClasses_valid (hv _ ht) _ h
  | classOfJson h => exact ClassName.ofJson_valid h
  | typeOfJson h => exact TypeName.ofJson_valid h
  | valueOfJson h => exact TypeName.readValue_valid h
  | converted h => exact TypeModel.report_valid h
  | resolved h => exact ResolvedClass.typeName_valid h

theorem valid_of_obtained {names : List Name} (h : Obtained names) : ∀ n ∈ names, n.Valid := by
  induction h with
  | start => simp
  | step hs h ih => exact List.forall_mem_cons.mpr ⟨h.valid ih, ih⟩

def innerJson : Json :=
  .arr [.str "parameterized", .arr [.arr [.str "a$b", .arr [.str "Outer"], .str "Inner"],
    .arr [.arr [.str "type_variable", .arr [.str "T"]]]]]

def innerType : TypeName := .parameterized ⟨["a$b"], ["Outer"], "Inner"⟩ [.typeVariable "T" []]

def innerNames : List Name :=
  [.ofType (.array (.array (.intersection [innerType, Table.mutualBoundsName]))),
    .ofType (.intersection [innerType, Table.mutualBoundsName]),
    .ofType Table.mutualBoundsName,
    .ofClass ⟨["a$b"], [], "Outer"⟩,
    .ofClass ⟨["a$b"], ["Outer"], "Inner"⟩,
    .ofType innerType]

theorem obtained_innerNames : Obtained innerNames := by
  have hj : TypeName.ofJson innerJson = .ok innerType := rfl
  have hm : TypeName.meet [innerType, Table.mutualBoundsName] =
      .ok (.intersection [innerType, Table.mutualBoundsName]) := rfl
  have hc : innerType.class? = some ⟨["a$b"], ["Outer"], "Inner"⟩ := rfl
  have he : (⟨["a$b"], ["Outer"], "Inner"⟩ : ClassName).enclosingClass? =
      some ⟨["a$b"], [], "Outer"⟩ := rfl
  apply Obtained.step _ (.arrayOf 2 (by simp))
  apply Obtained.step _ (.meet (by simp) hm)
  apply Obtained.step _ (.converted Table.report_mutualBounds)
  apply Obtained.step _ (.enclosing (by simp) he)
  apply Obtained.step _ (.classOf (by simp) hc)
  exact Obtained.step .start (.typeOfJson hj)

theorem innerNames_valid : Obtained innerNames ∧ ∀ n ∈ innerNames, n.Valid :=
  ⟨obtained_innerNames, valid_of_obtained obtained_innerNames⟩

end JavaTypes
