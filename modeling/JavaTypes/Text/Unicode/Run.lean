namespace JavaTypes.Text.Unicode

inductive Run where
  | one (point : Nat)
  | span (first last : Nat)
  /-- Every second code point, both ends included. -/
  | alternating (first last : Nat)

namespace Run

def start : Run → Nat
  | one p => p
  | span a _ => a
  | alternating a _ => a

def contains : Run → Nat → Bool
  | one p, n => n == p
  | span a b, n => a ≤ n && n ≤ b
  | alternating a b, n => a ≤ n && n ≤ b && (n - a) % 2 == 0

theorem start_le_of_contains {r : Run} {n : Nat} (h : r.contains n = true) : r.start ≤ n := by
  cases r <;> simp_all [contains, start]

end Run

def ordered : List Run → Bool
  | r :: s :: rest => r.start ≤ s.start && ordered (s :: rest)
  | _ => true

def search : List Run → Nat → Bool
  | [], _ => false
  | r :: rest, n => r.start ≤ n && (r.contains n || search rest n)

theorem start_le_of_ordered {r : Run} {rest : List Run} (h : ordered (r :: rest) = true) :
    ∀ s ∈ rest, r.start ≤ s.start := by
  induction rest generalizing r with
  | nil => simp
  | cons s rest ih =>
    simp only [ordered, Bool.and_eq_true, decide_eq_true_eq] at h
    intro t ht
    cases ht with
    | head => exact h.1
    | tail _ ht => exact Nat.le_trans h.1 (ih h.2 t ht)

theorem search_eq_any {runs : List Run} (h : ordered runs = true) (n : Nat) :
    search runs n = runs.any (·.contains n) := by
  induction runs with
  | nil => rfl
  | cons r rest ih =>
    have hrest : ordered rest = true := by
      cases rest with
      | nil => rfl
      | cons s rest => simp_all [ordered]
    rw [search, List.any_cons, ih hrest]
    by_cases hn : r.start ≤ n
    · simp [hn]
    · have head : r.contains n = false := by
        rw [Bool.eq_false_iff]
        exact fun hc => hn (Run.start_le_of_contains hc)
      have tail : rest.any (·.contains n) = false := by
        rw [List.any_eq_false]
        intro s hs hc
        exact hn (Nat.le_trans (start_le_of_ordered h s hs) (Run.start_le_of_contains hc))
      simp [hn, head, tail]

structure Points where
  runs : List Run
  increasing : ordered runs = true

def Points.Covers (p : Points) (n : Nat) : Prop := ∃ r ∈ p.runs, r.contains n = true

instance (p : Points) (n : Nat) : Decidable (p.Covers n) :=
  decidable_of_iff (search p.runs n = true) (by
    rw [search_eq_any p.increasing, List.any_eq_true, Points.Covers])

end JavaTypes.Text.Unicode
