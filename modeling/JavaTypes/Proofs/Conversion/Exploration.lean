import Mathlib.Data.Set.Insert
import JavaTypes.Proofs.Conversion.Memory
import JavaTypes.Proofs.Conversion.WellFormed
import JavaTypes.TypeName.Nodes

/-!
Where a successful conversion has been. Variables that it only looked up in the memo are left where
they are; the set is closed under everything else, and what its types contribute is in the name.
-/

namespace JavaTypes.TypeModel

variable {T E : Type} {m : TypeModel T E}

structure Shown (m : TypeModel T E) (ns : List TypeName) (t : T) : Prop where
  classes {c} : m.HasClass t c → ∃ n ∈ ns, n.class? = some c
  primitives {x} : m.kind t = .primitive x → ∃ n ∈ ns, n.primitive? = some x

theorem Shown.mono {ns ns' : List TypeName} {t : T} (h : m.Shown ns t) (hn : ns ⊆ ns') :
    m.Shown ns' t where
  classes hc := by
    obtain ⟨n, hm, hn'⟩ := h.classes hc
    exact ⟨n, hn hm, hn'⟩
  primitives hp := by
    obtain ⟨n, hm, hn'⟩ := h.primitives hp
    exact ⟨n, hn hm, hn'⟩

theorem shown_of_kind {ns : List TypeName} {t : T} (hd : m.kind t ≠ .declared)
    (hp : ∀ x, m.kind t ≠ .primitive x) : m.Shown ns t where
  classes hc := absurd hc.1 hd
  primitives hx := absurd hx (hp _)

theorem shown_of_class {ns : List TypeName} {t : T} {c : ClassName} (hc : m.HasClass t c)
    (hn : ∃ n ∈ ns, n.class? = some c) : m.Shown ns t where
  classes hd := hc.unique hd ▸ hn
  primitives hx := by
    rw [hc.1] at hx
    cases hx

theorem Leaf.shown {t : T} {a : TypeName} (h : m.Leaf m.HasName t a) : m.Shown a.nodes t := by
  cases h with
  | primitive k =>
    refine ⟨fun hc => absurd hc.1 (by simp [k]), fun hx => ⟨_, TypeName.self_mem_nodes _, ?_⟩⟩
    rw [k] at hx
    cases hx
    rfl
  | void k | null k => exact shown_of_kind (by simp [k]) (by simp [k])
  | named k he hc => exact shown_of_class ⟨k, _, he, hc⟩ ⟨_, TypeName.self_mem_nodes _, rfl⟩

variable [DecidableEq E]

/-- A run from `p` to `q` that has been at the types of `V`, of which it shows `ns`. -/
structure Explores (m : TypeModel T E) (V : Set T) (p q : Progress E) (ns : List TypeName) :
    Prop where
  keeps : q.Extends p
  inside {s t} : t ∈ V → m.Inside s t → s ∈ V
  wellFormed {t} : t ∈ V → m.kind t ≠ .typeVariable → m.WellFormed t
  shown {t} : t ∈ V → m.Shown ns t
  known {t} : t ∈ V → m.kind t = .typeVariable →
    ∃ e v, m.element? t = some e ∧ q.memo.get? e = some v
  bound {e v} : q.memo.get? e = some v → p.memo.get? e = none →
    ∃ t b, m.kind t = .typeVariable ∧ m.element? t = some e ∧ m.upperBound? t = some b ∧
      (m.IsObject b ∨ b ∈ V)

namespace Explores

variable {V W : Set T} {p q r : Progress E} {ns ns' : List TypeName}

theorem empty (hm : q.memo = p.memo) : m.Explores ∅ p q ns where
  keeps e v hv := hm ▸ hv
  inside ht := ht.elim
  wellFormed ht := ht.elim
  shown ht := ht.elim
  known ht := ht.elim
  bound hv hn := by
    rw [hm, hn] at hv
    cases hv

theorem mono (h : m.Explores V p q ns) (hn : ns ⊆ ns') : m.Explores V p q ns' :=
  { h with shown := fun ht => (h.shown ht).mono hn }

theorem union (h : m.Explores V p q ns) (h' : m.Explores W q r ns) :
    m.Explores (V ∪ W) p r ns where
  keeps := h'.keeps.trans h.keeps
  inside ht hs := ht.imp (fun ht => h.inside ht hs) fun ht => h'.inside ht hs
  wellFormed ht k := ht.elim (fun ht => h.wellFormed ht k) fun ht => h'.wellFormed ht k
  shown ht := ht.elim h.shown h'.shown
  known ht k := by
    cases ht with
    | inl ht =>
      obtain ⟨e, v, he, hv⟩ := h.known ht k
      exact ⟨e, v, he, h'.keeps e v hv⟩
    | inr ht => exact h'.known ht k
  bound {e v} hv hn := by
    cases hq : q.memo.get? e with
    | none =>
      obtain ⟨t, b, k, he, hb, ho⟩ := h'.bound hv hq
      exact ⟨t, b, k, he, hb, ho.imp id .inr⟩
    | some w =>
      obtain ⟨t, b, k, he, hb, ho⟩ := h.bound hq hn
      exact ⟨t, b, k, he, hb, ho.imp id .inl⟩

theorem insert (h : m.Explores V p q ns) {t : T} (hi : ∀ s, m.Inside s t → s ∈ V)
    (hw : m.kind t ≠ .typeVariable → m.WellFormed t) (hn : m.Shown ns t)
    (hk : m.kind t = .typeVariable → ∃ e v, m.element? t = some e ∧ q.memo.get? e = some v) :
    m.Explores (insert t V) p q ns where
  keeps := h.keeps
  inside {s u} hu hs := by
    obtain rfl | hu := hu
    · exact .inr (hi s hs)
    · exact .inr (h.inside hu hs)
  wellFormed {u} hu := by
    obtain rfl | hu := hu
    · exact hw
    · exact h.wellFormed hu
  shown {u} hu := by
    obtain rfl | hu := hu
    · exact hn
    · exact h.shown hu
  known {u} hu := by
    obtain rfl | hu := hu
    · exact hk
    · exact h.known hu
  bound hv hn := by
    obtain ⟨u, b, k, he, hb, ho⟩ := h.bound hv hn
    exact ⟨u, b, k, he, hb, ho.imp id .inr⟩

theorem insert_type (h : m.Explores V p q ns) {t : T} (k : m.kind t ≠ .typeVariable)
    (hi : ∀ s, m.Inside s t → s ∈ V) (hw : m.WellFormed t) (hs : m.Shown ns t) :
    m.Explores (Insert.insert t V) p q ns :=
  h.insert hi (fun _ => hw) hs fun hk => absurd hk k

theorem insert_variable (h : m.Explores V p q ns) {t : T} {e : E} {v : TypeVariable}
    (k : m.kind t = .typeVariable) (he : m.element? t = some e) (hv : q.memo.get? e = some v) :
    m.Explores (Insert.insert t V) p q ns := by
  apply h.insert
  · intro s hs
    exact absurd hs (not_inside (by simp [k]) (by simp [k]) (by simp [k]))
  · exact fun hk => absurd k hk
  · exact shown_of_kind (by simp [k]) (by simp [k])
  · exact fun _ => ⟨e, v, he, hv⟩

theorem of_met {kind : TypeKind} (h : m.Explores V (p.met kind) q ns) : m.Explores V p q ns :=
  { h with keeps := h.keeps, bound := h.bound }

theorem settle {e : E} {v w : TypeVariable} (h : m.Explores V (p.remember e v) q ns)
    (hn : p.memo.get? e = none) {t b : T} (k : m.kind t = .typeVariable)
    (he : m.element? t = some e) (hb : m.upperBound? t = some b) (ho : m.IsObject b ∨ b ∈ V) :
    m.Explores (Insert.insert t V) p (q.remember e w) ns := by
  have hr : m.Explores V p (q.remember e w) ns :=
    { keeps := .overwrite hn h.keeps
      inside := h.inside
      wellFormed := h.wellFormed
      shown := h.shown
      known := fun {u} hu hk => by
        obtain ⟨f, x, hf, hx⟩ := h.known hu hk
        by_cases hef : e = f
        · exact ⟨f, w, hf, by rw [Progress.remember_get?, if_pos hef]⟩
        · exact ⟨f, x, hf, by rw [Progress.remember_get?, if_neg hef, hx]⟩
      bound := fun {f x} hx hf => by
        by_cases hef : e = f
        · subst hef
          exact ⟨t, b, k, he, hb, ho⟩
        · rw [Progress.remember_get?, if_neg hef] at hx
          exact h.bound hx (by rw [Progress.remember_get?, if_neg hef, hf]) }
  exact hr.insert_variable k he (by rw [Progress.remember_get?, if_pos rfl])

end Explores

section Steps

variable {R : T → Progress E → TypeName → Progress E → Prop} {convention : Convention} {t : T}
  {p q : Progress E}

theorem explores_each {ts : List T} {as : List TypeName} (h : Each R ts p as q)
    (hR : ∀ t p a q, R t p a q → ∃ V, t ∈ V ∧ m.Explores V p q a.nodes) :
    ∃ V : Set T, (∀ t ∈ ts, t ∈ V) ∧ m.Explores V p q (as.flatMap TypeName.nodes) := by
  induction h with
  | nil p => exact ⟨∅, fun _ h => (List.not_mem_nil h).elim, .empty rfl⟩
  | @cons t ts a as p q r h _ ih =>
    obtain ⟨V, ht, hV⟩ := hR _ _ _ _ h
    obtain ⟨W, hts, hW⟩ := ih
    refine ⟨V ∪ W, ?_, ?_⟩
    · intro s hs
      cases hs with
      | head => exact .inl ht
      | tail _ hs => exact .inr (hts s hs)
    · rw [List.flatMap_cons]
      exact (hV.mono (List.subset_append_left _ _)).union (hW.mono (List.subset_append_right _ _))

theorem PartsStep.explores {as : List TypeName} (k : m.kind t = .intersection)
    (h : m.PartsStep R t p as q)
    (hR : ∀ t p a q, R t p a q → ∃ V, t ∈ V ∧ m.Explores V p q a.nodes) :
    ∃ V, t ∈ V ∧ m.Explores V p q (as.flatMap TypeName.nodes) := by
  obtain ⟨V, hts, hV⟩ := explores_each h.1 hR
  refine ⟨insert t V, .inl rfl, hV.insert_type (by simp [k]) ?_ ?_ ?_⟩
  · intro s hs
    exact hts s ((inside_intersection k).mp hs)
  · exact (wellFormed_intersection k).mpr (h.1.length_eq ▸ h.2)
  · exact shown_of_kind (by simp [k]) (by simp [k])

theorem nodes_of_bounds (convention : Convention) (name : String) (as : List TypeName) :
    as.flatMap TypeName.nodes ⊆ (TypeName.typeVariable name (convention.bounds as)).nodes := by
  cases convention with
  | flatten => exact TypeName.nodes_of_children_subset (.typeVariable name as)
  | wrap =>
    have ha : as.flatMap TypeName.nodes ⊆ (TypeName.intersection as).nodes :=
      TypeName.nodes_of_children_subset (.intersection as)
    exact List.Subset.trans ha (TypeName.nodes_subset List.mem_cons_self)

theorem BoundsStep.explores {e : E} {v w : TypeVariable} {as : List TypeName}
    (k : m.kind t = .typeVariable) (he : m.element? t = some e) (hn : p.memo.get? e = none)
    (h : m.BoundsStep R m.HasName convention t (p.remember e v) as q)
    (hR : ∀ t p a q, R t p a q → ∃ V, t ∈ V ∧ m.Explores V p q a.nodes) (name : String) :
    ∃ V, t ∈ V ∧ m.Explores V p (q.remember e w) (TypeName.typeVariable name as).nodes := by
  cases h with
  | @object b _ hb ho =>
    have hE : m.Explores ∅ (p.remember e v) (p.remember e v)
        (TypeName.typeVariable name []).nodes := .empty rfl
    exact ⟨_, .inl rfl, hE.settle hn k he hb (.inl ho)⟩
  | @parts b _ as q hb kb hs =>
    obtain ⟨V, hbV, hV⟩ := PartsStep.explores kb hs hR
    exact ⟨_, .inl rfl, (hV.mono (nodes_of_bounds _ name as)).settle hn k he hb (.inr hbV)⟩
  | @plain b _ a q hb ho hs =>
    obtain ⟨V, hbV, hV⟩ := hR _ _ _ _ hs
    have ha : a.nodes ⊆ (TypeName.typeVariable name [a]).nodes :=
      TypeName.nodes_subset List.mem_cons_self
    exact ⟨_, .inl rfl, (hV.mono ha).settle hn k he hb (.inr hbV)⟩

theorem Step.explores {a : TypeName} (h : m.Step R m.HasName convention t p a q)
    (hR : ∀ t p a q, R t p a q → ∃ V, t ∈ V ∧ m.Explores V p q a.nodes) :
    ∃ V, t ∈ V ∧ m.Explores V p q a.nodes := by
  cases h with
  | leaf hl =>
    have hE : m.Explores ∅ p (p.met (m.kind t)) a.nodes := .empty rfl
    refine ⟨insert t ∅, .inl rfl, hE.insert_type hl.kind_ne ?_ hl.wellFormed hl.shown⟩
    intro s hs
    exact absurd hs hl.no_inside
  | @array s _ a _ k hc hs =>
    obtain ⟨V, hsV, hV⟩ := hR _ _ _ _ hs
    have ha : a.nodes ⊆ (TypeName.array a).nodes := TypeName.nodes_subset List.mem_cons_self
    have hV := hV.of_met.mono ha
    refine ⟨insert t V, .inl rfl, hV.insert_type (by simp [k]) ?_ ?_ ?_⟩
    · intro u hu
      cases hc.symm.trans ((inside_array k).mp hu)
      exact hsV
    · exact (wellFormed_array k).mpr (by simp [hc])
    · exact shown_of_kind (by simp [k]) (by simp [k])
  | @applied e c _ as _ k he hc ha hs =>
    obtain ⟨V, hts, hV⟩ := explores_each hs hR
    have hV := hV.of_met.mono (TypeName.nodes_of_children_subset (.parameterized c as))
    refine ⟨insert t V, .inl rfl, hV.insert_type (by simp [k]) ?_ ?_ ?_⟩
    · intro s hs
      exact hts s ((inside_declared k).mp hs)
    · exact (wellFormed_declared k).mpr ⟨c, k, e, he, hc⟩
    · exact shown_of_class ⟨k, e, he, hc⟩ ⟨_, TypeName.self_mem_nodes _, rfl⟩
  | @parts _ as _ k hs =>
    obtain ⟨V, htV, hV⟩ := PartsStep.explores k hs hR
    exact ⟨V, htV, hV.of_met.mono (TypeName.nodes_of_children_subset (.intersection as))⟩
  | @known e v _ k he hv =>
    have hE : m.Explores ∅ p ((p.met (m.kind t)).emit (.reused v.name)) v.typeName.nodes :=
      .empty rfl
    exact ⟨insert t ∅, .inl rfl, hE.insert_variable k he hv⟩
  | @fresh e _ as _ k he hv hs =>
    have hv : (p.met (m.kind t)).memo.get? e = none := hv
    obtain ⟨V, htV, hV⟩ := BoundsStep.explores k he hv hs hR (m.elementName e)
    exact ⟨V, htV, hV.of_met⟩

theorem Succeeds.explores {a : TypeName} (h : m.Succeeds convention t p a q) :
    ∃ V, t ∈ V ∧ m.Explores V p q a.nodes :=
  h.induct (P := fun t p a q => ∃ V, t ∈ V ∧ m.Explores V p q a.nodes) fun h =>
    h.explores fun _ _ _ _ h => h

end Steps

namespace Explores

variable {V : Set T} {q : Progress E} {ns : List TypeName} {t u : T}

theorem exists_bound (h : m.Explores V .start q ns) (hm : m.Coherent) (ht : t ∈ V)
    (k : m.kind t = .typeVariable) :
    (m.element? t).isSome ∧ ∃ b, m.upperBound? t = some b ∧ (m.IsObject b ∨ b ∈ V) := by
  obtain ⟨e, v, he, hv⟩ := h.known ht k
  -- The memo was empty at first, so the entry stems from a variable of `V`, perhaps not `t`.
  obtain ⟨s, b, ks, hs, hb, ho⟩ := h.bound hv rfl
  rw [hm s t e ks k hs he] at hb
  exact ⟨by simp [he], b, hb, ho⟩

theorem mem_of_reaches (h : m.Explores V .start q ns) (hm : m.Coherent) (ht : t ∈ V)
    (hr : m.Reaches t u) : u ∈ V := by
  induction hr with
  | refl => exact ht
  | tail _ hv ih =>
    cases hv with
    | inside hs => exact h.inside ih hs
    | bound k hb ho =>
      obtain ⟨-, b, hb', hV⟩ := h.exists_bound hm ih k
      cases hb.symm.trans hb'
      exact hV.resolve_left ho

theorem mem_of_leads (h : m.Explores V .start q ns) (hm : m.Coherent) (ht : t ∈ V)
    (hr : Relation.ReflTransGen m.Leads t u) : m.IsObject u ∨ u ∈ V := by
  induction hr with
  | refl => exact .inr ht
  | tail _ hv ih =>
    obtain ho | ih := ih
    · exact absurd hv ho.no_leads
    · cases hv with
      | inside hs => exact .inr (h.inside ih hs)
      | bound k hb =>
        obtain ⟨-, b, hb', hV⟩ := h.exists_bound hm ih k
        cases hb.symm.trans hb'
        exact hV

theorem wellFormed_of_leads (h : m.Explores V .start q ns) (hm : m.Coherent) (ht : t ∈ V)
    (hr : Relation.ReflTransGen m.Leads t u) : m.WellFormed u := by
  obtain ho | hu := h.mem_of_leads hm ht hr
  · exact ho.wellFormed
  · by_cases k : m.kind u = .typeVariable
    · obtain ⟨he, b, hb, -⟩ := h.exists_bound hm hu k
      exact (wellFormed_typeVariable k).mpr ⟨he, by simp [hb]⟩
    · exact h.wellFormed hu k

end Explores

end JavaTypes.TypeModel
