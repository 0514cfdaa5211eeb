import JavaTypes.Model.Construct
import JavaTypes.Proofs.Arena.Meaning
import JavaTypes.TypeName.Bounds

namespace JavaTypes

theorem TypeName.BoundsForm.boundsOf_single {convention : Convention} {x : TypeName}
    (h : BoundsForm convention [x]) : convention.boundsOf x = [x] := by
  cases x with
  | intersection parts =>
    cases convention with
    | flatten => exact absurd rfl (h.2 parts)
    | wrap => rfl
  | _ => rfl

theorem TypeName.BoundsForm.boundsOf_intersection {convention : Convention}
    {bounds : List TypeName} (h : BoundsForm convention bounds) (hl : 2 ≤ bounds.length) :
    convention.boundsOf (.intersection bounds) = bounds := by
  cases convention with
  | flatten => rfl
  | wrap =>
    have hle : bounds.length ≤ 1 := h.2
    omega

namespace Arena

variable {α β : Type} {a b c : Arena} {convention : Convention} {owner e : ElementId} {s t : TypeId}
  {name : String}

def Builds (act : Construction α) (a : Arena) (x : α) (b : Arena) : Prop :=
  act.run a = .ok (x, b)

theorem builds_pure (x : α) : Builds (pure x) a x a := rfl

theorem Builds.bind {act : Construction α} {f : α → Construction β} {x : α} {y : β}
    (h : Builds act a x c) (hf : Builds (f x) c y b) : Builds (act >>= f) a y b := by
  change (act.run a >>= fun p => (f p.1).run p.2) = _
  rw [h]
  exact hf

theorem builds_doing {act : StateM Arena α} {x : α} (h : Makes act a x b) :
    Builds (doing act) a x b :=
  congrArg Except.ok h

theorem builds_boundedBy (h : a.setBound t s = .ok b) : Builds (boundedBy t s) a () b := by
  change (a.setBound t s).map _ = _
  rw [h]
  rfl

structure Keeps (a b : Arena) : Prop where
  larger : b.Extends a
  steps : Relation.ReflTransGen Step a b

namespace Keeps

theorem refl (a : Arena) : Keeps a a := ⟨.refl a, .refl⟩

theorem trans (h : Keeps a b) (h' : Keeps b c) : Keeps a c :=
  ⟨h'.larger.trans h.larger, h.steps.trans h'.steps⟩

theorem closed (h : Keeps a b) (ha : a.Closed) : b.Closed := closed_of_steps h.steps ha

end Keeps

theorem Creates.keeps (h : Creates a b) : Keeps a b := ⟨h.grows.extends, .single (.creates h)⟩

theorem Extends.setElement {d : ElementData} (h : b.Extends a) (hb : b.HasElement e)
    (ha : ¬ a.HasElement e) : (b.setElement e d).Extends a where
  element {f} _ hf := by
    have hne : f ≠ e := by
      rintro rfl
      exact ha (hasElement_of_element? hf)
    rw [element?_setElement hb, if_neg hne]
    exact h.element hf
  type ht := h.type ht
  convention := h.convention

theorem exists_bounded {x : TypeName} (ha : a.Closed) (ho : a.HasElement owner)
    (hs : a.Denotes convention s (.ok x)) (hx : x ≠ .named .object) :
    ∃ t b, Builds (boundedVariable owner name s) a t b ∧ Keeps a b ∧
      b.Denotes convention t (.ok (.typeVariable name (convention.boundsOf x))) := by
  obtain ⟨t, c, hc⟩ := exists_makes (typeParameter owner name) a
  obtain ⟨hac, e, old, _, hnew, ht, he, -⟩ := makes_typeParameter hc ho
  have hec := hasElement_of_element? he
  have hb : c.setBound t s = .ok (c.setElement e (.typeParameter name owner s)) :=
    setBound_eq_ok_iff.mpr ⟨e, name, owner, old, ht, he, rfl⟩
  have hk : Keeps a (c.setElement e (.typeParameter name owner s)) :=
    ⟨hac.extends.setElement hec hnew,
      .tail (.single (.creates (.typeParameter ho hc)))
        (.setBound (hac.extends.hasType hs.hasType) hb)⟩
  refine ⟨t, _, (builds_doing hc).bind ((builds_boundedBy hb).bind (builds_pure t)), hk, ?_⟩
  have he : (c.setElement e (.typeParameter name owner s)).element? e =
      some (.typeParameter name owner s) := by
    rw [element?_setElement hec, if_pos rfl]
  exact denotes_bounded ht he (hs.of_extends ha hk.larger) hx

theorem exists_unbounded (ho : a.HasElement owner) :
    ∃ t b, Builds (doing (typeParameter owner name)) a t b ∧ Keeps a b ∧
      b.Denotes convention t (.ok (.typeVariable name [])) := by
  obtain ⟨t, b, hb⟩ := exists_makes (typeParameter owner name) a
  obtain ⟨-, e, s, f, -, ht, he, hf, hs⟩ := makes_typeParameter hb ho
  exact ⟨t, b, builds_doing hb, (Creates.typeParameter ho hb).keeps,
    denotes_unbounded ht he hf hs⟩

theorem exists_intersection {handles : List TypeId} {parts : List TypeName} (ha : a.Closed)
    (h : a.DenotesAll convention handles parts) (hl : 2 ≤ parts.length) :
    ∃ t b, Makes (intersection handles) a t b ∧ Keeps a b ∧
      b.Denotes convention t (.ok (.intersection parts)) := by
  obtain ⟨t, b, hb⟩ := exists_makes (intersection handles) a
  obtain ⟨hab, ht⟩ := grows_addType hb (fits_intersection h.hasType)
  exact ⟨t, b, hb, (Creates.intersection h.hasType hb).keeps,
    denotes_intersection ht (h.of_extends ha hab.extends) hl⟩

theorem constructVariable_denotes {handles : List TypeId} {bounds : List TypeName}
    (ha : a.Closed) (ho : a.HasElement owner) (h : a.DenotesAll convention handles bounds)
    (hf : TypeName.BoundsForm convention bounds) :
    ∃ t b, Builds (constructVariable owner name handles) a t b ∧ Keeps a b ∧
      b.Denotes convention t (.ok (.typeVariable name bounds)) := by
  match handles, bounds, h with
  | [], [], _ => exact exists_unbounded ho
  | [s], [x], .cons hs _ =>
    have hx : x ≠ .named .object := by
      rintro rfl
      exact hf.1 rfl
    obtain ⟨t, b, hb, hab, ht⟩ := exists_bounded ha ho hs hx
    rw [hf.boundsOf_single] at ht
    exact ⟨t, b, hb, hab, ht⟩
  | s :: s' :: ss, x :: x' :: xs, h =>
    have hl : 2 ≤ (x :: x' :: xs).length := by simp
    obtain ⟨i, c, hc, hac, hi⟩ := exists_intersection ha h hl
    obtain ⟨t, b, hb, hcb, ht⟩ := exists_bounded (hac.closed ha) (hac.larger.hasElement ho) hi nofun
    rw [hf.boundsOf_intersection hl] at ht
    exact ⟨t, b, (builds_doing hc).bind hb, hac.trans hcb, ht⟩

section Construct

/-- Only variables need an owner. -/
def Owns (a : Arena) (owner : ElementId) (t : TypeName) : Prop :=
  ∀ name bounds, .typeVariable name bounds ∈ t.nodes → a.HasElement owner

theorem Owns.child {t x : TypeName} (h : a.Owns owner t) (hx : x ∈ t.children) : a.Owns owner x :=
  fun _ _ hn => h _ _ (TypeName.nodes_subset hx hn)

theorem Owns.extends {t : TypeName} (h : a.Owns owner t) (hb : b.Extends a) : b.Owns owner t :=
  fun _ _ hn => hb.hasElement (h _ _ hn)

def Constructs (convention : Convention) (owner : ElementId) (t : TypeName) : Prop :=
  ∀ a : Arena, a.Closed → a.Owns owner t → ∃ s b, Builds (construct owner t) a s b ∧
    Keeps a b ∧ b.Denotes convention s (.ok t)

theorem constructAll_denotes {ts : List TypeName} (h : ∀ t ∈ ts, Constructs convention owner t)
    (ha : a.Closed) (ho : ∀ t ∈ ts, a.Owns owner t) :
    ∃ ss b, Builds (constructAll owner ts) a ss b ∧ Keeps a b ∧
      b.DenotesAll convention ss ts := by
  induction ts generalizing a with
  | nil => exact ⟨[], a, builds_pure [], .refl a, .nil⟩
  | cons t ts ih =>
    obtain ⟨s, c, hc, hac, hs⟩ := h t List.mem_cons_self a ha (ho t List.mem_cons_self)
    obtain ⟨ss, b, hb, hcb, hss⟩ := ih (fun t ht => h t (List.mem_cons_of_mem _ ht)) (hac.closed ha)
      fun t ht => (ho t (List.mem_cons_of_mem _ ht)).extends hac.larger
    exact ⟨s :: ss, b, hc.bind (hb.bind (builds_pure _)), hac.trans hcb,
      .cons (hs.of_extends (hac.closed ha) hcb.larger) hss⟩

theorem constructs_of_data {t : TypeName} {d : TypeData}
    (hc : construct owner t = doing (addType d)) (hf : ∀ a, d.Fits a)
    (hm : ∀ {a s b}, Makes (addType d) a s b → Creates a b)
    (hd : ∀ {a : Arena} {s}, a.type? s = some d → a.Denotes convention s (.ok t)) :
    Constructs convention owner t := by
  intro a _ _
  obtain ⟨s, b, hb⟩ := exists_makes (addType d) a
  obtain ⟨-, hs⟩ := grows_addType hb (hf a)
  exact ⟨s, b, hc ▸ builds_doing hb, (hm hb).keeps, hd hs⟩

theorem constructs_named {c : ClassName} (hv : c.Valid) :
    Constructs convention owner (.named c) := by
  intro a _ _
  obtain ⟨s, b, hb⟩ := exists_makes (classType c.packageName c.simpleNames) a
  obtain ⟨-, e, he, hs⟩ := makes_classType hb
  have hd : b.Denotes convention s _ := denotes_class he hs
  rw [hv.new_packageName] at hd
  exact ⟨s, b, builds_doing hb, (Creates.classType hb).keeps, hd⟩

theorem constructs_array {t : TypeName} (h : Constructs convention owner t) :
    Constructs convention owner (.array t) := by
  intro a ha ho
  obtain ⟨s, c, hc, hac, hs⟩ := h a ha (ho.child List.mem_cons_self)
  obtain ⟨u, b, hb⟩ := exists_makes (addType (.array s)) c
  obtain ⟨hcb, hu⟩ := grows_addType hb (fits_array hs.hasType)
  have hn : Makes (arrayOf 1 s) c u b := hb
  refine ⟨u, b, hc.bind (builds_doing hn), hac.trans (Creates.arrayOf hs.hasType hn).keeps, ?_⟩
  exact denotes_array hu (hs.of_extends (hac.closed ha) hcb.extends)

theorem constructs_parameterized {raw : ClassName} {arguments : List TypeName} (hv : raw.Valid)
    (hne : arguments ≠ []) (h : ∀ t ∈ arguments, Constructs convention owner t) :
    Constructs convention owner (.parameterized raw arguments) := by
  intro a ha ho
  obtain ⟨ss, c, hc, hac, hss⟩ := constructAll_denotes h ha fun t ht => ho.child ht
  obtain ⟨e, d, hd⟩ := exists_makes (classElement raw.packageName raw.simpleNames) c
  obtain ⟨hcd, he⟩ := makes_classElement hd
  have had := hac.trans (Creates.classElement hd).keeps
  have hss := hss.of_extends (hac.closed ha) hcd.extends
  obtain ⟨u, b, hb⟩ := exists_makes (declared e ss) d
  obtain ⟨hdb, hu⟩ := grows_addType hb (fits_declared he.hasElement hss.hasType)
  refine ⟨u, b, hc.bind ((builds_doing hd).bind (builds_doing hb)),
    had.trans (Creates.declared he.hasElement hss.hasType hb).keeps, ?_⟩
  exact denotes_applied (he.extends hdb.extends) hv.new_packageName hu
    (hss.of_extends (had.closed ha) hdb.extends) hne

theorem constructs_typeVariable {bounds : List TypeName}
    (hf : TypeName.BoundsForm convention bounds) (h : ∀ t ∈ bounds, Constructs convention owner t) :
    Constructs convention owner (.typeVariable name bounds) := by
  intro a ha ho
  have hn : a.HasElement owner := ho name bounds (TypeName.self_mem_nodes _)
  obtain ⟨ss, c, hc, hac, hss⟩ := constructAll_denotes h ha fun t ht => ho.child ht
  obtain ⟨t, b, hb, hcb, ht⟩ :=
    constructVariable_denotes (hac.closed ha) (hac.larger.hasElement hn) hss hf
  exact ⟨t, b, hc.bind hb, hac.trans hcb, ht⟩

theorem constructs_intersection {parts : List TypeName} (hl : 2 ≤ parts.length)
    (h : ∀ t ∈ parts, Constructs convention owner t) :
    Constructs convention owner (.intersection parts) := by
  intro a ha ho
  obtain ⟨ss, c, hc, hac, hss⟩ := constructAll_denotes h ha fun t ht => ho.child ht
  obtain ⟨t, b, hb, hcb, ht⟩ := exists_intersection (hac.closed ha) hss hl
  exact ⟨t, b, hc.bind (builds_doing hb), hac.trans hcb, ht⟩

theorem constructs {t : TypeName} (hv : t.Valid) (hf : t.InForm convention) :
    Constructs convention owner t := by
  induction t with
  | primitive p =>
    exact constructs_of_data rfl (fun _ => ⟨nofun, nofun⟩) .primitive denotes_primitive
  | void => exact constructs_of_data rfl (fun _ => ⟨nofun, nofun⟩) .void denotes_void
  | null => exact constructs_of_data rfl (fun _ => ⟨nofun, nofun⟩) .null denotes_null
  | named c => exact constructs_named (TypeName.valid_named.mp hv)
  | array component ih =>
    exact constructs_array (ih (TypeName.valid_array.mp hv) (TypeName.inForm_array.mp hf))
  | parameterized raw arguments ih =>
    obtain ⟨⟨hr, hne⟩, hv⟩ := TypeName.valid_parameterized.mp hv
    have hf := TypeName.inForm_parameterized.mp hf
    exact constructs_parameterized hr hne fun t ht => ih t ht (hv t ht) (hf t ht)
  | typeVariable name bounds ih =>
    have hv := TypeName.valid_typeVariable.mp hv
    obtain ⟨hb, hf⟩ := TypeName.inForm_typeVariable.mp hf
    exact constructs_typeVariable hb fun t ht => ih t ht (hv t ht) (hf t ht)
  | intersection bounds ih =>
    obtain ⟨hl, hv⟩ := TypeName.valid_intersection.mp hv
    have hf := TypeName.inForm_intersection.mp hf
    exact constructs_intersection hl fun t ht => ih t ht (hv t ht) (hf t ht)

end Construct

theorem report_construct {t : TypeName} (ha : a.Reachable)
    (ho : ∀ name bounds, .typeVariable name bounds ∈ t.nodes → a.HasElement owner)
    (settings : Settings) (hv : t.Valid) (hf : t.InForm (settings.effective a.convention)) :
    ∃ s b, (construct owner t).run a = .ok (s, b) ∧ b.Reachable ∧
      (b.report settings s).result = .ok t := by
  obtain ⟨s, b, hb, hab, hs⟩ := constructs hv hf a ha.closed ho
  refine ⟨s, b, hb, ha.steps hab.steps, ?_⟩
  rw [← hab.larger.convention] at hs
  exact hs.report_eq (hab.closed ha.closed)

theorem numbers_construct :
    mapSession.Reachable ∧
    (∀ name bounds, .typeVariable name bounds ∈ TypeModel.numbersName.nodes →
      mapSession.HasElement ⟨1⟩) ∧
    TypeModel.numbersName.Valid ∧
    TypeModel.numbersName.InForm (Settings.effective ⟨some .flatten⟩ mapSession.convention) ∧
    (∃ s b, (construct ⟨1⟩ TypeModel.numbersName).run mapSession = .ok (s, b) ∧ b.Reachable ∧
      (b.report ⟨some .flatten⟩ s).result = .ok TypeModel.numbersName) ∧
    ∃ s b, (construct ⟨0⟩ (.array (.primitive .int))).run (empty .wrap) = .ok (s, b) ∧
      b.Reachable ∧ (b.report .default s).result = .ok (.array (.primitive .int)) := by
  have ho : ∀ name bounds, .typeVariable name bounds ∈ TypeModel.numbersName.nodes →
      mapSession.HasElement ⟨1⟩ := fun _ _ _ => mapSession_hasElement
  have hv : TypeModel.numbersName.Valid := by decide
  have hf : TypeModel.numbersName.InForm .flatten := by
    simp [TypeModel.numbersName, TypeName.BoundsForm]
  have hn : ∀ name bounds, .typeVariable name bounds ∈ (TypeName.array (.primitive .int)).nodes →
      (empty .wrap).HasElement ⟨0⟩ := by
    intro name bounds h
    simp [TypeName.nodes] at h
  exact ⟨mapSession_reachable, ho, hv, hf,
    report_construct mapSession_reachable ho ⟨some .flatten⟩ hv hf,
    report_construct ⟨.wrap, .refl⟩ hn .default (by simp) (by simp)⟩

end Arena

end JavaTypes
