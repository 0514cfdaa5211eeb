import Mathlib.Logic.Relation
import JavaTypes.Proofs.Conversion.Invariant

namespace JavaTypes.TypeModel

variable {T E : Type} [DecidableEq E]

/-- The conversion of a type from a progress converts these types, one after the other, and starts
with them from that progress. -/
inductive Opens (m : TypeModel T E) : T → Progress E → List T → Progress E → Prop
  | component {t s p} (k : m.kind t = .array) (h : m.component? t = some s) :
      Opens m t p [s] (p.met (m.kind t))
  | arguments {t e c p} (k : m.kind t = .declared) (h : m.element? t = some e)
      (hc : m.HasName e (.ok c)) : Opens m t p (m.arguments t) (p.met (m.kind t))
  | parts {t p} (k : m.kind t = .intersection) : Opens m t p (m.parts t) (p.met (m.kind t))
  | bound {t e b p} (k : m.kind t = .typeVariable) (h : m.element? t = some e)
      (hv : p.memo.get? e = none) (hb : m.upperBound? t = some b)
      (ho : m.PlainBound m.HasName b) :
      Opens m t p [b] ((p.met (m.kind t)).remember e (.unbounded (m.elementName e)))
  | boundParts {t e b p} (k : m.kind t = .typeVariable) (h : m.element? t = some e)
      (hv : p.memo.get? e = none) (hb : m.upperBound? t = some b)
      (kb : m.kind b = .intersection) :
      Opens m t p (m.parts b) ((p.met (m.kind t)).remember e (.unbounded (m.elementName e)))

/-- Of the types that are opened, the earlier ones have been converted. -/
def Calls (m : TypeModel T E) (convention : Convention) (x y : T × Progress E) : Prop :=
  ∃ before after r as, m.Opens x.1 x.2 (before ++ y.1 :: after) r ∧
    Each (m.Succeeds convention) before r as y.2

/-- The conversion of `root` comes to convert `t` and has made the progress `p` by then. -/
def Meets (m : TypeModel T E) (convention : Convention) (root t : T) (p : Progress E) : Prop :=
  Relation.ReflTransGen (m.Calls convention) (root, .start) (t, p)

variable {m : TypeModel T E} {convention : Convention} {t : T} {p q r : Progress E}

theorem Opens.calls_head {s : T} {ts : List T} (h : m.Opens t p (s :: ts) r) :
    m.Calls convention (t, p) (s, r) :=
  ⟨[], ts, r, [], h, .nil r⟩

section Called

variable {R : T → Progress E → TypeName → Progress E → Prop}
  (hR : ∀ {t p a q}, R t p a q → m.Succeeds convention t p a q)
include hR

theorem each_called {before ts : List T} {as bs : List TypeName} {u : Progress E}
    (ho : m.Opens t p (before ++ ts) r) (hb : Each (m.Succeeds convention) before r bs u)
    (h : Each R ts u as q) :
    Each (fun s u a v => m.Calls convention (t, p) (s, u) ∧ R s u a v) ts u as q := by
  induction h generalizing before bs with
  | nil u => exact .nil u
  | @cons s ts a as u v q h _ ih =>
    have hcall : m.Calls convention (t, p) (s, u) := ⟨before, ts, r, bs, ho, hb⟩
    exact .cons ⟨hcall, h⟩ (ih (by simpa using ho) (hb.concat (hR h)))

theorem Step.called {a : TypeName} (h : m.Step R m.HasName convention t p a q) :
    m.Step (fun s u b v => m.Calls convention (t, p) (s, u) ∧ R s u b v) m.HasName convention
      t p a q := by
  cases h with
  | leaf hl => exact .leaf hl
  | array k hc hs => exact .array k hc ⟨(Opens.component k hc).calls_head, hs⟩
  | applied k he hc ha hs =>
    exact .applied k he hc ha (each_called hR (.arguments k he hc) (.nil _) hs)
  | parts k hs => exact .parts k ⟨each_called hR (.parts k) (.nil _) hs.1, hs.2⟩
  | known k he hv => exact .known k he hv
  | fresh k he hv hs =>
    refine .fresh k he hv ?_
    cases hs with
    | object hb ho => exact .object hb ho
    | parts hb kb hs =>
      exact .parts hb kb ⟨each_called hR (.boundParts k he hv hb kb) (.nil _) hs.1, hs.2⟩
    | plain hb ho hs => exact .plain hb ho ⟨(Opens.bound k he hv hb ho).calls_head, hs⟩

end Called

theorem Succeeds.meets_induct {root : T} {P : T → Progress E → TypeName → Progress E → Prop}
    (step : ∀ {t p a q}, m.Meets convention root t p → m.Succeeds convention t p a q →
      m.Step P m.HasName convention t p a q → P t p a q)
    {a : TypeName} (h : m.Succeeds convention t p a q) (hm : m.Meets convention root t p) :
    P t p a q := by
  have hP : m.Succeeds convention t p a q ∧ (m.Meets convention root t p → P t p a q) := by
    apply h.induct
    intro t p a q h
    have hs : m.Succeeds convention t p a q := .of_step (h.mono And.left id)
    refine ⟨hs, fun hm => step hm hs ?_⟩
    exact (Step.called And.left h).mono (fun hx => hx.2.2 (hm.tail hx.1)) id
  exact hP.2 hm

/-- In the conversion of `root` the element gets the value `v` in place of its placeholder. -/
def Settles (m : TypeModel T E) (convention : Convention) (root : T) (e : E) (v : TypeVariable) :
    Prop :=
  ∃ t p a q, m.Meets convention root t p ∧ m.kind t = .typeVariable ∧ m.element? t = some e ∧
    p.memo.get? e = none ∧ m.Succeeds convention t p a q ∧ q.memo.get? e = some v

section

variable {G : T → TypeName → Prop} {I : E → TypeVariable → Prop}

theorem Invariant.opens (h : m.Invariant convention G I) {ts : List T}
    (ho : m.Opens t p ts r) (hp : p.All I) : r.All I := by
  cases ho with
  | component | arguments | parts => exact hp
  | bound k he | boundParts k he =>
    exact Progress.All.remember (p := p.met (m.kind t)) hp (h.placeholder k he)

theorem Invariant.meets (h : m.Invariant convention G I) {root : T}
    (hm : m.Meets convention root t p) : p.All I := by
  suffices hx : ∀ x y, Relation.ReflTransGen (m.Calls convention) x y → x.2.All I → y.2.All I from
    hx _ _ hm .start
  intro x y hxy hx
  induction hxy with
  | refl => exact hx
  | tail _ hc ih =>
    obtain ⟨before, after, r, as, ho, hs⟩ := hc
    exact (hs.all (G := G) (fun _ _ _ _ => h.holds) (h.opens ho ih)).2

end

end JavaTypes.TypeModel
