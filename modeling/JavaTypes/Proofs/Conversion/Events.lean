import Mathlib.Data.Set.Card
import JavaTypes.Proofs.Conversion.Resolution
import JavaTypes.Proofs.Conversion.Tables

namespace JavaTypes

def Event.isReused : Event → Bool
  | reused _ => true
  | _ => false

theorem Event.suffix_of_suffix_converting {name : String} {kind : TypeKind}
    {before log : List Event} (h : .reused name :: before <:+ .converting kind :: log) :
    .reused name :: before <:+ log := by
  obtain heq | h := List.suffix_cons_iff.mp h
  · cases heq
  · exact h

theorem Settings.exists_suffix_of_append {s : Settings} {reported : Convention}
    {before after log : List Event} {name : String}
    (h : s.events reported ++ log.reverse = before ++ .reused name :: after) :
    ∃ earlier, .reused name :: earlier <:+ log ∧ before = s.events reported ++ earlier.reverse := by
  have hsplit : ∃ between, before = s.events reported ++ between ∧
      log.reverse = between ++ .reused name :: after := by
    obtain hsplit | ⟨between, hb, hl⟩ := List.append_eq_append_iff.mp h
    · exact hsplit
    · cases between with
      | nil => exact ⟨[], by simpa using hb.symm, hl.symm⟩
      | cons event between =>
        cases (List.cons.inj hl).1
        have hm : .reused name ∈ s.events reported := by simp [hb]
        obtain ⟨c, hc⟩ := exists_of_mem_events hm
        cases hc
  obtain ⟨between, rfl, hl⟩ := hsplit
  refine ⟨between.reverse, ⟨after.reverse, ?_⟩, by rw [List.reverse_reverse]⟩
  calc
    after.reverse ++ .reused name :: between.reverse
      = (between ++ .reused name :: after).reverse := by simp
    _ = log := by rw [← hl, List.reverse_reverse]

namespace TypeModel

variable {T E : Type} [DecidableEq E] (m : TypeModel T E) (convention : Convention) (root : T)

def MetWith (e : E) (log : List Event) : Prop :=
  ∃ x, m.Meets convention root x.1 x.2 ∧ m.OfVariable e x ∧ x.2.log = log

def ResolvedBy (e : E) (log : List Event) : Prop :=
  ∃ x, m.Meets convention root x.1 x.2 ∧ m.Resolving e x ∧
    .converting .typeVariable :: x.2.log <:+ log

def converted : Set E := {e | ∃ log, m.MetWith convention root e log}

/-- The log accounts for every entry and for every variable that was met. -/
structure Recounted (p : Progress E) : Prop where
  balance : (p.log.count (.converting .typeVariable) : ℕ∞) =
    p.log.countP Event.isReused + p.keys.encard
  named : p.All fun e v => v.name = m.elementName e
  resolved {e} : e ∈ p.keys → m.ResolvedBy convention root e p.log
  reused {name before} : .reused name :: before <:+ p.log →
    ∃ e log, before = .converting .typeVariable :: log ∧ name = m.elementName e ∧
      m.MetWith convention root e log ∧ m.ResolvedBy convention root e log
  overridden (reported override) : .overridden reported override ∉ p.log

variable {m convention root} {t : T} {e : E} {p q r : Progress E}

theorem ResolvedBy.mono {log log' : List Event} (h : m.ResolvedBy convention root e log)
    (hl : log <:+ log') : m.ResolvedBy convention root e log' := by
  obtain ⟨x, hx, hr, hs⟩ := h
  exact ⟨x, hx, hr, hs.trans hl⟩

namespace Recounted

theorem start : m.Recounted convention root .start where
  balance := by
    rw [Progress.keys_start, Set.encard_empty]
    rfl
  named := .start
  resolved he := by
    rw [Progress.keys_start] at he
    exact he.elim
  reused hs := absurd (List.suffix_nil.mp hs) (List.cons_ne_nil _ _)
  overridden := nofun

theorem met (h : m.Recounted convention root p) {kind : TypeKind} (k : kind ≠ .typeVariable) :
    m.Recounted convention root (p.met kind) where
  balance := by simpa [Progress.met, Event.isReused, k] using h.balance
  named := h.named
  resolved he := (h.resolved he).mono (List.suffix_cons _ _)
  reused hs := h.reused (Event.suffix_of_suffix_converting hs)
  overridden := by simpa [Progress.met] using h.overridden

theorem reuse {v : TypeVariable} (h : m.Recounted convention root p)
    (hm : m.Meets convention root t p) (he : m.OfVariable e (t, p))
    (hv : p.memo.get? e = some v) :
    m.Recounted convention root ((p.met .typeVariable).emit (.reused v.name)) where
  balance := by
    have hb := h.balance
    simp only [Progress.met, Progress.emit_log, Progress.keys_emit, List.count_cons,
      List.countP_cons, Event.isReused]
    simp [hb, add_right_comm]
  named := h.named
  resolved he := (h.resolved he).mono ((List.suffix_cons _ _).trans (List.suffix_cons _ _))
  reused hs := by
    obtain heq | hs := List.suffix_cons_iff.mp hs
    · cases heq
      exact ⟨e, p.log, rfl, h.named e v hv, ⟨(t, p), hm, he, rfl⟩, h.resolved ⟨v, hv⟩⟩
    · exact h.reused (Event.suffix_of_suffix_converting hs)
  overridden := by simpa [Progress.met] using h.overridden

theorem enter (h : m.Recounted convention root p) (hm : m.Meets convention root t p)
    (he : m.Resolving e (t, p)) : m.Recounted convention root (m.entered t e p) := by
  have k : m.kind t = .typeVariable := he.1.1
  have hn : e ∉ p.keys := Progress.notMem_keys.mpr he.2
  have hlog : (m.entered t e p).log = .converting .typeVariable :: p.log := by
    rw [← k]
    rfl
  have hkeys : (m.entered t e p).keys = insert e p.keys := by
    rw [entered, Progress.keys_remember, Progress.keys_met]
  constructor
  case balance =>
    rw [hlog, hkeys, List.count_cons_self, List.countP_cons_of_neg (by simp [Event.isReused]),
      Set.encard_insert_of_notMem hn, Nat.cast_add, h.balance, Nat.cast_one, add_assoc]
  case named => exact Progress.All.remember (p := p.met (m.kind t)) h.named rfl
  case resolved =>
    intro f hf
    rw [hkeys] at hf
    rw [hlog]
    obtain rfl | hf := hf
    · exact ⟨(t, p), hm, he, List.suffix_refl _⟩
    · exact (h.resolved hf).mono (List.suffix_cons _ _)
  case reused =>
    intro name before hs
    rw [hlog] at hs
    exact h.reused (Event.suffix_of_suffix_converting hs)
  case overridden =>
    rw [hlog]
    simpa using h.overridden

theorem settle (h : m.Recounted convention root p) (he : e ∈ p.keys) (as : List TypeName) :
    m.Recounted convention root (p.remember e ⟨m.elementName e, as⟩) := by
  have hkeys (v : TypeVariable) : (p.remember e v).keys = p.keys := by
    rw [Progress.keys_remember, Set.insert_eq_of_mem he]
  constructor
  case balance =>
    rw [hkeys]
    exact h.balance
  case named => exact h.named.remember rfl
  case resolved =>
    intro f hf
    rw [hkeys] at hf
    exact h.resolved hf
  case reused => exact h.reused
  case overridden => exact h.overridden

end Recounted

section Steps

def Recounting (m : TypeModel T E) (convention : Convention) (root : T) (p q : Progress E) : Prop :=
  p.keys ⊆ q.keys ∧ (m.Recounted convention root p → m.Recounted convention root q)

variable {R : T → Progress E → TypeName → Progress E → Prop}

theorem Recounting.of_met {kind : TypeKind} (h : m.Recounting convention root (p.met kind) q)
    (k : kind ≠ .typeVariable) : m.Recounting convention root p q :=
  ⟨h.1, fun hp => h.2 (hp.met k)⟩

theorem Recounting.refl (p : Progress E) : m.Recounting convention root p p := ⟨subset_rfl, id⟩

theorem Recounting.trans (h : m.Recounting convention root p q)
    (h' : m.Recounting convention root q r) : m.Recounting convention root p r :=
  ⟨h.1.trans h'.1, fun hp => h'.2 (h.2 hp)⟩

theorem Step.recounting {a : TypeName} (h : m.Step R m.HasName convention t p a q)
    (hm : m.Meets convention root t p)
    (hR : ∀ {t p a q}, R t p a q → m.Recounting convention root p q) :
    m.Recounting convention root p q := by
  cases h with
  | leaf hl => exact ⟨subset_rfl, fun hp => hp.met hl.kind_ne⟩
  | array k _ hs => exact (hR hs).of_met (by simp [k])
  | applied k _ _ _ hs => exact (hs.relates .refl .trans hR).of_met (by simp [k])
  | parts k hs => exact (hs.1.relates .refl .trans hR).of_met (by simp [k])
  | known k he hv =>
    rw [k]
    exact ⟨subset_rfl, fun hp => hp.reuse hm ⟨k, he⟩ hv⟩
  | @fresh e _ as q k he hv hs =>
    obtain ⟨hq, hqr⟩ : m.Recounting convention root (m.entered t e p) q :=
      hs.relates .refl .trans hR
    rw [entered, Progress.keys_remember, Progress.keys_met] at hq
    refine ⟨?_, fun hp => ?_⟩
    · rw [Progress.keys_remember]
      exact ((Set.subset_insert e _).trans hq).trans (Set.subset_insert e _)
    · exact (hqr (hp.enter hm ⟨⟨k, he⟩, hv⟩)).settle (hq (Set.mem_insert e _)) as

theorem Succeeds.recounted {a : TypeName} (h : m.Succeeds convention root .start a q) :
    m.Recounted convention root q := by
  have hr : m.Recounting convention root .start q :=
    h.meets_induct (P := fun _ p _ q => m.Recounting convention root p q)
      (fun hm _ h => h.recounting hm id) .refl
  exact hr.2 .start

theorem Succeeds.keys_eq {a : TypeName} (h : m.Succeeds convention root .start a q) :
    q.keys = m.converted convention root := by
  ext e
  constructor
  · intro he
    obtain ⟨x, hx, hr, -⟩ := h.recounted.resolved he
    exact ⟨x.2.log, x, hx, hr.1, rfl⟩
  · rintro ⟨log, x, hx, he, -⟩
    exact Within.mem_keys hx he h

theorem Succeeds.existsUnique_resolving {a : TypeName} (h : m.Succeeds convention root .start a q)
    (he : e ∈ m.converted convention root) :
    ∃! x, m.Meets convention root x.1 x.2 ∧ m.Resolving e x := by
  rw [← h.keys_eq] at he
  obtain ⟨x, hx, hr, -⟩ := h.recounted.resolved he
  refine ⟨x, ⟨hx, hr⟩, ?_⟩
  rintro y ⟨hy, hr'⟩
  exact Within.eq_of_resolving hy hx hr' hr

end Steps

theorem events_of_report {s : Settings} {n : Nat} {a : TypeName}
    (h : (m.report s n t).result = .ok a) :
    (∀ e ∈ m.converted (s.effective m.convention) t,
      ∃! x, m.Meets (s.effective m.convention) t x.1 x.2 ∧ m.Resolving e x) ∧
    ((m.report s n t).events.count (.converting .typeVariable) : ℕ∞) =
      (m.report s n t).events.countP Event.isReused +
        (m.converted (s.effective m.convention) t).encard ∧
    (∀ before name after, (m.report s n t).events = before ++ .reused name :: after →
      ∃ e log, before = s.events m.convention ++ log.reverse ++ [.converting .typeVariable] ∧
        name = m.elementName e ∧ m.MetWith (s.effective m.convention) t e log ∧
        m.ResolvedBy (s.effective m.convention) t e log) ∧
    (∀ c, s.boundConvention = some c → c ≠ m.convention →
      ∃ rest, (m.report s n t).events = .overridden m.convention c :: rest ∧
        ∀ reported override, .overridden reported override ∉ rest) ∧
    ((∀ c, s.boundConvention = some c → c = m.convention) →
      ∀ reported override, .overridden reported override ∉ (m.report s n t).events) := by
  obtain ⟨q, hy⟩ := report_ok h
  have hs : m.Succeeds (s.effective m.convention) t .start a q := ⟨n, hy⟩
  have hq := hs.recounted
  rw [report_of_yields hy]
  refine ⟨fun e he => hs.existsUnique_resolving he, ?_, ?_, ?_, ?_⟩
  · have hc : (s.events m.convention).count (.converting .typeVariable) = 0 := by
      rw [List.count_eq_zero]
      intro hm
      obtain ⟨c, hc⟩ := Settings.exists_of_mem_events hm
      cases hc
    have hr : (s.events m.convention).countP Event.isReused = 0 := by
      rw [List.countP_eq_zero]
      intro event hm
      obtain ⟨c, rfl⟩ := Settings.exists_of_mem_events hm
      simp [Event.isReused]
    rw [List.count_append, List.countP_append, hc, hr, zero_add, zero_add, List.count_reverse,
      List.countP_reverse, hq.balance, hs.keys_eq]
  · intro before name after heq
    obtain ⟨earlier, hl, rfl⟩ := Settings.exists_suffix_of_append heq
    obtain ⟨e, log, rfl, hname, hm⟩ := hq.reused hl
    refine ⟨e, log, ?_, hname, hm⟩
    rw [List.reverse_cons, List.append_assoc]
  · intro c hc hne
    refine ⟨q.log.reverse, by rw [Settings.events_of_ne hc hne]; rfl, fun _ _ hm => ?_⟩
    exact hq.overridden _ _ (List.mem_reverse.mp hm)
  · intro hc reported override hm
    rw [Settings.events_eq_nil hc] at hm
    exact hq.overridden _ _ (List.mem_reverse.mp hm)

theorem mutualBounds_events :
    (Table.mutualBounds.model.report ⟨some .flatten⟩ 10 0).result =
      .ok (.typeVariable "A" [.typeVariable "B" [Table.comparable "A", Table.comparable "B"]]) ∧
    (Table.mutualBounds.model.report ⟨some .flatten⟩ 10 0).events =
      [.overridden .wrap .flatten, .converting .typeVariable, .converting .typeVariable,
        .converting .declared, .converting .typeVariable, .reused "A", .converting .declared,
        .converting .typeVariable, .reused "B"] ∧
    (Table.mutualBounds.model.converted .flatten 0).encard = 2 ∧
    ∀ e ∈ Table.mutualBounds.model.converted .flatten 0,
      ∃! x, Table.mutualBounds.model.Meets .flatten 0 x.1 x.2 ∧
        Table.mutualBounds.model.Resolving e x := by
  have hr : (Table.mutualBounds.model.report ⟨some .flatten⟩ 10 0).result =
      .ok (.typeVariable "A" [.typeVariable "B" [Table.comparable "A", Table.comparable "B"]]) :=
    rfl
  obtain ⟨hu, hc, -, -, -⟩ := events_of_report hr
  refine ⟨hr, rfl, ?_, hu⟩
  have hc : (2 + 2 : ℕ∞) = 2 + (Table.mutualBounds.model.converted .flatten 0).encard := hc
  exact ENat.add_right_injective_of_ne_top (by simp) hc.symm

end TypeModel

end JavaTypes
