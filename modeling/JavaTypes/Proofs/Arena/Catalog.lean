import JavaTypes.Model.Catalog
import JavaTypes.Proofs.Arena.Interning

namespace JavaTypes

namespace Catalog

open Arena (Makes makes_bind makes_addElement makes_addType)

variable {α β : Type} {k l : Catalog} {e : ElementId} {d x : ElementData}
  {package name : String} {names outer : List String}

def Faithful (k : Catalog) : Prop := ∀ d e, k.find? d = some e ↔ k.arena.Interned e d

/-- The operation does what the other one does on the arena alone, and the tables stay right. -/
def Follows (act : StateM Catalog α) (plain : StateM Arena α) (k : Catalog) : Prop :=
  ∃ x l, act.run k = (x, l) ∧ Makes plain k.arena x l.arena ∧ l.Faithful

theorem Faithful.distinct (hk : k.Faithful) : k.arena.Distinct := by
  intro e f d he hf
  have h := ((hk d e).mpr he).symm.trans ((hk d f).mpr hf)
  exact Option.some.inj h

theorem Faithful.of_iff {b : Arena} (hk : k.Faithful)
    (h : ∀ e d, b.Interned e d ↔ k.arena.Interned e d) : Faithful { k with arena := b } :=
  fun d e => (hk d e).trans (h e d).symm

theorem faithful_empty (convention : Convention) : (empty convention).Faithful := by
  intro d e
  have hn : (empty convention).find? d = none := by cases d <;> simp [empty, find?]
  rw [hn]
  exact ⟨nofun, nofun⟩

theorem record_arena : (k.record e d).arena = k.arena := by cases d <;> rfl

theorem find?_record {a : Arena} (hx : x.Shared a) :
    (k.record e x).find? d = if x = d then some e else k.find? d := by
  cases x with
  | package => cases d <;> simp [record, find?, Std.HashMap.getElem?_insert]
  | type => cases d <;> simp [record, find?, Std.HashMap.getElem?_insert, and_comm]
  | _ => exact hx.elim

theorem Follows.bind {act : StateM Catalog α} {plain : StateM Arena α} {f : α → StateM Catalog β}
    {g : α → StateM Arena β} (h : Follows act plain k)
    (hf : ∀ y l, Makes plain k.arena y l.arena → l.Faithful → Follows (f y) (g y) l) :
    Follows (act >>= f) (plain >>= g) k := by
  obtain ⟨y, l, hy, hm, hl⟩ := h
  obtain ⟨z, l', hz, hm', hl'⟩ := hf y l hm hl
  refine ⟨z, l', ?_, makes_bind.mpr ⟨y, l.arena, hm, hm'⟩, hl'⟩
  change (f (act.run k).1).run (act.run k).2 = (z, l')
  rw [hy]
  exact hz

theorem lift_follows {act : StateM Arena α} (hk : k.Faithful)
    (h : ∀ y b, Makes act k.arena y b → ∀ e d, b.Interned e d ↔ k.arena.Interned e d) :
    Follows (lift act) act k :=
  ⟨_, _, rfl, rfl, hk.of_iff (h _ _ rfl)⟩

theorem addType_follows {y : TypeData} (hk : k.Faithful) :
    Follows (lift (Arena.addType y)) (Arena.addType y) k := by
  apply lift_follows hk
  intro _ _ h
  obtain ⟨rfl, rfl⟩ := makes_addType.mp h
  exact fun _ _ => Arena.interned_pushType_iff

theorem share_run (d : ElementData) (k : Catalog) : (share d).run k =
    match k.find? d with
    | some e => (e, k)
    | none => (⟨k.arena.elements.size⟩,
        record { k with arena := k.arena.pushElement d } ⟨k.arena.elements.size⟩ d) := by
  change (match k.find? d with | some e => _ | none => _ : StateM Catalog ElementId).run k = _
  cases k.find? d <;> rfl

theorem Faithful.record (hk : k.Faithful) (ha : k.arena.Closed) (hd : d.Fits k.arena)
    (hs : d.Shared k.arena) (hn : ∀ e, k.arena.element? e ≠ some d) :
    (record { k with arena := k.arena.pushElement d } ⟨k.arena.elements.size⟩ d).Faithful := by
  intro x e
  have hx : find? { k with arena := k.arena.pushElement d } x = some e ↔ _ := hk x e
  rw [record_arena, Arena.interned_pushElement_iff ha hd, find?_record hs]
  split
  next heq =>
    subst heq
    have hno : ¬ k.arena.Interned e d := fun he => hn e he.1
    simp [hno, hs, eq_comm]
  next hne =>
    rw [hx, iff_self_or]
    rintro ⟨-, rfl, -⟩
    exact absurd rfl hne

theorem share_follows (hk : k.Faithful) (ha : k.arena.Closed) (hd : d.Fits k.arena)
    (hs : d.Shared k.arena) : Follows (share d) (Arena.share d) k := by
  have hr := share_run d k
  cases hf : k.find? d with
  | some e =>
    rw [hf] at hr
    exact ⟨e, k, hr, Arena.makes_share_of_interned hk.distinct ((hk d e).mp hf), hk⟩
  | none =>
    rw [hf] at hr
    have hn : ∀ e, k.arena.element? e ≠ some d := by
      intro e he
      cases hf.symm.trans ((hk d e).mpr ⟨he, hs⟩)
    refine ⟨_, _, hr, ?_, hk.record ha hd hs hn⟩
    rw [record_arena]
    exact Arena.makes_share_of_absent hn

theorem packageElement_follows (hk : k.Faithful) (ha : k.arena.Closed) :
    Follows (packageElement name) (Arena.packageElement name) k :=
  share_follows hk ha Arena.fits_package trivial

theorem classElement_append : classElement package (outer ++ [name]) =
    classElement package outer >>= fun f => share (.type name f) := by
  simp [classElement, List.foldlM_append]

theorem classElement_follows (hk : k.Faithful) (ha : k.arena.Closed) :
    Follows (classElement package names) (Arena.classElement package names) k := by
  induction names using List.reverseRecOn with
  | nil =>
    have h : classElement package [] = packageElement package := bind_pure _
    rw [h, Arena.classElement_nil]
    exact packageElement_follows hk ha
  | append_singleton outer name ih =>
    rw [classElement_append, Arena.classElement_append]
    apply ih.bind
    intro f l hf hl
    obtain ⟨hg, hf⟩ := Arena.makes_classElement hf
    exact share_follows hl (hg.closed ha) (Arena.fits_type hf.hasElement) (hf.shared name)

theorem classType_follows (hk : k.Faithful) (ha : k.arena.Closed) :
    Follows (classType package names) (Arena.classType package names) k :=
  (classElement_follows hk ha).bind fun _ _ _ hl => addType_follows hl

theorem addElement_follows (hk : k.Faithful) (ha : k.arena.Closed) (hd : d.Fits k.arena)
    (hs : ¬ d.Shared k.arena) : Follows (lift (Arena.addElement d)) (Arena.addElement d) k := by
  apply lift_follows hk
  intro e b h f x
  obtain ⟨rfl, rfl⟩ := makes_addElement.mp h
  rw [Arena.interned_pushElement_iff ha hd, or_iff_left fun hx => hs hx.2.2]

theorem typeParameter_follows (hk : k.Faithful) (ha : k.arena.Closed)
    (ho : k.arena.HasElement e) :
    Follows (typeParameter e name) (Arena.typeParameter e name) k := by
  refine (classType_follows hk ha).bind fun s l hs hl => ?_
  obtain ⟨hg, _, -, hs⟩ := Arena.makes_classType hs
  have hd : (ElementData.typeParameter name e s).Fits l.arena :=
    Arena.fits_typeParameter (hg.extends.hasElement ho) (Arena.hasType_of_type? hs)
  exact (addElement_follows hl (hg.closed ha) hd not_false).bind fun _ _ _ hl' =>
    addType_follows hl'

theorem localClass_follows {method : String} (hk : k.Faithful) (ha : k.arena.Closed)
    (ho : k.arena.HasElement e) :
    Follows (lift (Arena.localClass e method name)) (Arena.localClass e method name) k := by
  have hd : (ElementData.method method e).Fits k.arena := Arena.fits_method ho
  change Follows (lift (Arena.addElement (.method method e)) >>= fun m =>
    lift (Arena.addElement (.type name m))) _ k
  refine (addElement_follows hk ha hd not_false).bind fun m l hm hl => ?_
  obtain ⟨hg, hm⟩ := Arena.grows_addElement hm hd False.elim
  have hm' : (ElementData.type name m).Fits l.arena :=
    Arena.fits_type (Arena.hasElement_of_element? hm)
  exact addElement_follows hl (hg.closed ha) hm' fun hs => hs method e hm

inductive Step (k : Catalog) : Catalog → Prop
  | packageElement (name : String) : Step k ((packageElement name).run k).2
  | classElement (package : String) (names : List String) :
      Step k ((classElement package names).run k).2
  | classType (package : String) (names : List String) : Step k ((classType package names).run k).2
  | objectType : Step k (objectType.run k).2
  | typeParameter {owner : ElementId} (name : String) (ho : k.arena.HasElement owner) :
      Step k ((typeParameter owner name).run k).2
  | localClass {owner : ElementId} (method name : String) (ho : k.arena.HasElement owner) :
      Step k ((lift (Arena.localClass owner method name)).run k).2
  | addType {d : TypeData} (hd : d.Fits k.arena) : Step k ((lift (Arena.addType d)).run k).2
  | setBound {t bound : TypeId} {b : Arena} (ht : k.arena.HasType bound)
      (h : k.arena.setBound t bound = .ok b) : Step k { k with arena := b }
  | setConvention (convention : Convention) :
      Step k { k with arena := k.arena.setConvention convention }

def Reachable (k : Catalog) : Prop :=
  ∃ convention, Relation.ReflTransGen Step (empty convention) k

theorem Follows.step {act : StateM Catalog α} {plain : StateM Arena α} (h : Follows act plain k)
    (hc : ∀ x b, Makes plain k.arena x b → Arena.Creates k.arena b) :
    Arena.Step k.arena (act.run k).2.arena ∧ (act.run k).2.Faithful := by
  obtain ⟨x, l, hr, hm, hl⟩ := h
  rw [hr]
  exact ⟨.creates (hc x _ hm), hl⟩

theorem creates_addType {a : Arena} {d : TypeData} (hd : d.Fits a) :
    Arena.Creates a (a.pushType d) := by
  cases d with
  | primitive p => exact .primitive rfl
  | void => exact .void rfl
  | null => exact .null rfl
  | array s => exact .arrayOf (n := 1) (hd.1 s (List.mem_singleton_self s)) rfl
  | declared e arguments => exact .declared (hd.2 e rfl) hd.1 rfl
  | typeVariable e => exact .typeVariable (hd.2 e rfl) rfl
  | intersection parts => exact .intersection hd.1 rfl
  | bare kind => exact .bare rfl

theorem Step.follows (h : Step k l) (hk : k.Faithful) (ha : k.arena.Closed) :
    Arena.Step k.arena l.arena ∧ l.Faithful := by
  cases h with
  | packageElement => exact (packageElement_follows hk ha).step fun _ _ => .packageElement
  | classElement => exact (classElement_follows hk ha).step fun _ _ => .classElement
  | classType => exact (classType_follows hk ha).step fun _ _ => .classType
  | objectType => exact (classType_follows hk ha).step fun _ _ => .objectType
  | typeParameter _ ho => exact (typeParameter_follows hk ha ho).step fun _ _ => .typeParameter ho
  | localClass _ _ ho => exact (localClass_follows hk ha ho).step fun _ _ => .localClass ho
  | addType hd => exact ⟨.creates (creates_addType hd), hk.of_iff fun _ _ => Iff.rfl⟩
  | setBound ht h =>
    obtain ⟨e, name, owner, old, -, he, rfl⟩ := Arena.setBound_eq_ok_iff.mp h
    exact ⟨.setBound ht h, hk.of_iff fun _ _ => Arena.interned_setElement_iff he⟩
  | setConvention convention => exact ⟨.setConvention convention, hk.of_iff fun _ _ => Iff.rfl⟩

theorem Reachable.faithful (h : k.Reachable) : k.arena.Reachable ∧ k.Faithful := by
  obtain ⟨convention, h⟩ := h
  induction h with
  | refl => exact ⟨⟨convention, .refl⟩, faithful_empty convention⟩
  | tail _ hl ih =>
    obtain ⟨ha, hk⟩ := ih
    obtain ⟨hs, hl⟩ := hl.follows hk ha.closed
    exact ⟨ha.steps (.single hs), hl⟩

end Catalog

namespace Arena

/-- Packages and classes are the same element exactly if they have the same names, whenever they
were asked for; nothing else is ever that element. It leads outwards through its names, and to ask
for it again adds nothing. A catalog gives the same answers from its tables. -/
theorem interned_by_name (c : Arena) :
    (∀ p q e f, c.Returned (packageElement p) e → c.Returned (packageElement q) f →
      (e = f ↔ p = q)) ∧
    (∀ p q names others e f, c.Returned (classElement p names) e →
      c.Returned (classElement q others) f → (e = f ↔ p = q ∧ names = others)) ∧
    (∀ p, classElement p [] = packageElement p) ∧
    (∀ p names e, c.Returned (classElement p names) e → names ≠ [] →
      c.model.elementKind e = .type ∧ (∀ q f, c.Returned (packageElement q) f → e ≠ f) ∧
      ∀ owner method name f, c.Returned (localClass owner method name) f → e ≠ f) ∧
    (∀ p names e, c.Returned (classElement p names) e →
      c.model.Outward e (names.reverse.map (ElementKind.type, ·) ++ [(.package, p)]) ∧
      (classElement p names).run c = (e, c)) ∧
    ∀ k : Catalog, k.Reachable → k.arena.Reachable ∧ k.Faithful ∧
      ∀ p names, k.Follows (Catalog.classElement p names) (classElement p names) := by
  refine ⟨fun p q e f he hf => ?_, fun p q names others e f he hf => ?_, fun p => classElement_nil,
    fun p names e he hne => ⟨?_, fun q f hf => ?_, fun owner method name f hf => ?_⟩,
    fun p names e he => ?_, fun k hk => ?_⟩
  · simp [located_eq_iff he.distinct he.located_package hf.located_package]
  · exact located_eq_iff he.distinct he.located hf.located
  · exact he.located.elementKind_eq hne
  · rw [ne_eq, located_eq_iff he.distinct he.located hf.located_package]
    exact fun h => hne h.2
  · rintro rfl
    obtain ⟨m, hf, hm⟩ := hf.inMethod
    exact he.located.not_inMethod hf hm
  · exact ⟨he.located.outward, he.located.makes he.distinct⟩
  · obtain ⟨ha, hk⟩ := hk.faithful
    exact ⟨ha, hk, fun p names => Catalog.classElement_follows hk ha.closed⟩

def methodSession : Arena := ((localClass ⟨1⟩ "entries" "Entry").run mapSession).2

def nestedSession : Arena := ((classElement "java.util" ["Map", "Entry"]).run methodSession).2

def entrySession : Arena := ((packageElement "java.util").run nestedSession).2

def mapCatalog : Catalog := ((Catalog.classElement "java.util" ["Map"]).run (.empty .wrap)).2

theorem entrySession_interned :
    entrySession.Returned (packageElement "java.util") ⟨0⟩ ∧
    entrySession.Returned (localClass ⟨1⟩ "entries" "Entry") ⟨3⟩ ∧
    entrySession.Returned (classElement "java.util" ["Map", "Entry"]) ⟨4⟩ ∧
    entrySession.model.elementKind ⟨4⟩ = .type ∧
    (⟨4⟩ : ElementId) ≠ ⟨0⟩ ∧ (⟨4⟩ : ElementId) ≠ ⟨3⟩ ∧
    entrySession.model.Outward ⟨4⟩ [(.type, "Entry"), (.type, "Map"), (.package, "java.util")] ∧
    (classElement "java.util" ["Map", "Entry"]).run entrySession = (⟨4⟩, entrySession) ∧
    mapCatalog.Reachable ∧ mapCatalog.arena.Reachable ∧ mapCatalog.Faithful := by
  obtain ⟨-, -, -, hclass, hout, hcatalog⟩ := interned_by_name entrySession
  have hm : Creates mapSession methodSession := .localClass mapSession_hasElement rfl
  have hn : Creates methodSession nestedSession := .classElement rfl
  have he : Creates nestedSession entrySession := .packageElement rfl
  have rm : methodSession.Reachable := mapSession_reachable.steps (.single (.creates hm))
  have rn : nestedSession.Reachable := rm.steps (.single (.creates hn))
  have hpackage : entrySession.Returned (packageElement "java.util") ⟨0⟩ :=
    ⟨nestedSession, entrySession, rn, he, Prod.ext (by decide +kernel) rfl, .refl⟩
  have hlocal : entrySession.Returned (localClass ⟨1⟩ "entries" "Entry") ⟨3⟩ :=
    ⟨mapSession, methodSession, mapSession_reachable, hm, Prod.ext (by decide +kernel) rfl,
      .tail (.single (.creates hn)) (.creates he)⟩
  have hnested : entrySession.Returned (classElement "java.util" ["Map", "Entry"]) ⟨4⟩ :=
    ⟨methodSession, nestedSession, rm, hn, Prod.ext (by decide +kernel) rfl,
      .single (.creates he)⟩
  have hk : mapCatalog.Reachable := ⟨.wrap, .single (.classElement "java.util" ["Map"])⟩
  obtain ⟨kind, apart, apart'⟩ := hclass _ _ _ hnested (List.cons_ne_nil _ _)
  obtain ⟨outward, again⟩ := hout _ _ _ hnested
  obtain ⟨ha, hf, -⟩ := hcatalog mapCatalog hk
  exact ⟨hpackage, hlocal, hnested, kind, apart _ _ hpackage, apart' _ _ _ _ hlocal, outward,
    again, hk, ha, hf⟩

end Arena

end JavaTypes
