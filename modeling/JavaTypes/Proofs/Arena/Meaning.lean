import JavaTypes.Proofs.Arena.Frame
import JavaTypes.Proofs.Arena.Session
import JavaTypes.Proofs.Conversion.Composite

namespace JavaTypes.Arena

open TypeModel

variable {a b : Arena} {convention : Convention} {s t : TypeId} {e f : ElementId}
  {r : Except ConversionError TypeName} {package : String} {outer : List String}

theorem Located.surrounded (hf : a.Located package f outer) (he : a.model.Encloses f e) :
    a.model.Surrounded e package outer := by
  induction hf generalizing e with
  | package hf =>
    have hs := Surrounded.package he (elementKind_of_element? hf)
    rwa [elementName_of_element? hf] at hs
  | type hg hf ih =>
    have hs := Surrounded.type he (elementKind_of_element? hf) (ih (enclosing?_of_element? hf))
    rwa [elementName_of_element? hf] at hs

theorem Located.hasName {own : String} (h : a.Located package e (outer ++ [own])) :
    a.model.HasName e ((ClassName.new package outer own).mapError .refused) := by
  obtain ⟨f, hf, he⟩ := located_append_iff.mp h
  have hs := (hf.surrounded (enclosing?_of_element? he)).hasName
  rwa [elementName_of_element? he] at hs

section Data

variable {d : TypeData} {x : TypeName}

theorem grounded_of_contents (ht : a.type? t = some d) (hv : ∀ e, d ≠ .typeVariable e)
    (h : ∀ s ∈ d.contents, a.model.Grounded s) : a.model.Grounded t := by
  refine Acc.intro t fun s hs => ?_
  cases hs with
  | inside hs =>
    obtain ⟨d', hd, hs⟩ := exists_of_inside hs
    cases ht.symm.trans hd
    exact h s hs
  | bound _ hs =>
    obtain ⟨e, _, hd, -⟩ := exists_of_upperBound? hs
    cases ht.symm.trans hd
    exact absurd rfl (hv e)

theorem denotes_leaf (ht : a.type? t = some d) (hv : ∀ e, d ≠ .typeVariable e)
    (hd : d.contents = []) (h : a.model.Leaf a.model.HasName t x) :
    a.Denotes convention t (.ok x) where
  hasType := hasType_of_type? ht
  grounded := grounded_of_contents ht hv (by rw [hd]; nofun)
  expand := Expands.of_step (.leaf h)

theorem denotes_primitive {p : Primitive} (ht : a.type? t = some (.primitive p)) :
    a.Denotes convention t (.ok (.primitive p)) :=
  denotes_leaf ht nofun rfl (.primitive (kind_of_type? ht))

theorem denotes_void (ht : a.type? t = some .void) : a.Denotes convention t (.ok .void) :=
  denotes_leaf ht nofun rfl (.void (kind_of_type? ht))

theorem denotes_null (ht : a.type? t = some .null) : a.Denotes convention t (.ok .null) :=
  denotes_leaf ht nofun rfl (.null (kind_of_type? ht))

theorem denotes_class {own : String} (hl : a.Located package e (outer ++ [own]))
    (ht : a.type? t = some (.declared e [])) :
    a.Denotes convention t
      (((ClassName.new package outer own).mapError .refused).map .named) where
  hasType := hasType_of_type? ht
  grounded := grounded_of_contents ht nofun nofun
  expand := by
    have k : a.model.kind t = .declared := kind_of_type? ht
    have he : a.model.element? t = some e := modelElement?_of_type? ht
    have hn := hl.hasName
    cases hc : ClassName.new package outer own with
    | error fault =>
      rw [hc] at hn
      exact Refuses.of_step (.fault (.className k he hn))
    | ok c =>
      rw [hc] at hn
      exact Expands.of_step (.leaf (.named k he hn (arguments_of_type? ht)))

theorem denotes_array (ht : a.type? t = some (.array s)) (hs : a.Denotes convention s r) :
    a.Denotes convention t (r.map .array) where
  hasType := hasType_of_type? ht
  grounded := by
    apply grounded_of_contents ht nofun
    intro u hu
    cases List.mem_singleton.mp hu
    exact hs.grounded
  expand := by
    have k : a.model.kind t = .array := kind_of_type? ht
    have hc : a.model.component? t = some s := component?_of_type? ht
    cases r with
    | error err => exact Refuses.of_step (.array k hc ⟨hs.expand, rfl⟩)
    | ok x => exact Expands.of_step (.array k hc ⟨hs.expand, rfl⟩)

theorem denotes_applied {own : String} {c : ClassName} {handles : List TypeId}
    {arguments : List TypeName} (hl : a.Located package e (outer ++ [own]))
    (hc : ClassName.new package outer own = .ok c) (ht : a.type? t = some (.declared e handles))
    (h : a.DenotesAll convention handles arguments) (hne : arguments ≠ []) :
    a.Denotes convention t (.ok (.parameterized c arguments)) where
  hasType := hasType_of_type? ht
  grounded := grounded_of_contents ht nofun h.grounded
  expand := by
    have hn := hl.hasName
    rw [hc] at hn
    apply expands_parameterized (kind_of_type? ht) (modelElement?_of_type? ht) hn _ hne
    rw [arguments_of_type? ht]
    exact h.expands

theorem denotes_intersection {handles : List TypeId} {parts : List TypeName}
    (ht : a.type? t = some (.intersection handles))
    (h : a.DenotesAll convention handles parts) (hl : 2 ≤ parts.length) :
    a.Denotes convention t (.ok (.intersection parts)) where
  hasType := hasType_of_type? ht
  grounded := grounded_of_contents ht nofun h.grounded
  expand := by
    apply expands_intersection (kind_of_type? ht) _ hl
    rw [parts_of_type? ht]
    exact h.expands

end Data

section Variable

variable {name : String} {owner : ElementId} {x : TypeName}
  (ht : a.type? t = some (.typeVariable e))
  (he : a.element? e = some (.typeParameter name owner s))
include ht he

theorem upperBound?_of_data : a.model.upperBound? t = some s := by
  simp [model, parameter?, ht, he]

theorem grounded_of_bound (hs : a.model.Grounded s) : a.model.Grounded t := by
  refine Acc.intro t fun u hu => ?_
  rw [leads_typeVariable (kind_of_type? ht), upperBound?_of_data ht he] at hu
  cases hu
  exact hs

theorem denotes_bounded (hs : a.Denotes convention s (.ok x)) (ho : x ≠ .named .object) :
    a.Denotes convention t (.ok (.typeVariable name (convention.boundsOf x))) where
  hasType := hasType_of_type? ht
  grounded := grounded_of_bound ht he hs.grounded
  expand := by
    have hx := expands_bounded (kind_of_type? ht) (modelElement?_of_type? ht)
      (upperBound?_of_data ht he) hs.expand ho
    rwa [elementName_of_element? he] at hx

theorem denotes_unbounded (hl : a.Located "java.lang" f ["Object"])
    (hs : a.type? s = some (.declared f [])) :
    a.Denotes convention t (.ok (.typeVariable name [])) where
  hasType := hasType_of_type? ht
  grounded := grounded_of_bound ht he (grounded_of_contents hs nofun nofun)
  expand := by
    have hl : a.Located "java.lang" f ([] ++ ["Object"]) := hl
    have ho : a.model.IsObject s :=
      ⟨kind_of_type? hs, arguments_of_type? hs, f, modelElement?_of_type? hs, hl.hasName⟩
    have hx : a.model.Expands convention t _ := expands_unbounded (kind_of_type? ht)
      (modelElement?_of_type? ht) (upperBound?_of_data ht he) ho
    rwa [elementName_of_element? he] at hx

end Variable

end JavaTypes.Arena
