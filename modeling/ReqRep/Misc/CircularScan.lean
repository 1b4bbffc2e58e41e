import Mathlib

/-!
# A circular scan on machine words

A scan of `n` cells from cell `start` looks at `(start + j) % n`, with the sum
taken modulo the word size `width`. Where the sum wraps, the scan comes back to
the first cells early and leaves out the ones before `start`. What it finds first
is first in circular order all the same.
-/

namespace CircularScan

/-- The cell that iteration `j` looks at. -/
def visit (width n start j : Nat) : Nat := (start + j) % width % n

/-- How far behind `start` a cell lies in circular order. -/
def distance (n start i : Nat) : Nat := if start ≤ i then i - start else i + n - start

/-- The cells that a scan looks at. -/
def InReach (width n start i : Nat) : Prop :=
  start ≤ i ∨ i + n < width ∨ i + width < start + n

instance (width n start i : Nat) : Decidable (InReach width n start i) :=
  inferInstanceAs (Decidable (_ ∨ _))

variable {width n start i j : Nat}

/-- Before the end, after it, and after the sum has wrapped. -/
theorem visit_cases (fits : n ≤ width) (inside : start < n) (bound : j < n) :
    (start + j < n ∧ visit width n start j = start + j) ∨
    (n ≤ start + j ∧ start + j < width ∧ visit width n start j = start + j - n) ∨
    (width ≤ start + j ∧ visit width n start j = start + j - width) := by
  unfold visit
  by_cases wraps : width ≤ start + j
  · refine .inr (.inr ⟨wraps, ?_⟩)
    rw [Nat.mod_eq_sub_mod wraps, Nat.mod_eq_of_lt (a := start + j - width) (by omega)]
    exact Nat.mod_eq_of_lt (by omega)
  · rw [Nat.mod_eq_of_lt (a := start + j) (by omega)]
    by_cases behind : n ≤ start + j
    · refine .inr (.inl ⟨behind, by omega, ?_⟩)
      rw [Nat.mod_eq_sub_mod behind]
      exact Nat.mod_eq_of_lt (by omega)
    · exact .inl ⟨by omega, Nat.mod_eq_of_lt (by omega)⟩

theorem visit_inReach (fits : n ≤ width) (inside : start < n) (bound : j < n) :
    InReach width n start (visit width n start j) := by
  unfold InReach
  rcases visit_cases fits inside bound with h | h | h <;> omega

theorem InReach.visited (fits : n ≤ width) (inside : start < n) (bound : i < n)
    (reach : InReach width n start i) : ∃ j < n, visit width n start j = i := by
  by_cases ahead : start ≤ i
  · refine ⟨i - start, by omega, ?_⟩
    rcases visit_cases fits inside (j := i - start) (by omega) with h | h | h <;> omega
  · rcases reach with h | before | wrapped
    · exact absurd h ahead
    · refine ⟨i + n - start, by omega, ?_⟩
      rcases visit_cases fits inside (j := i + n - start) (by omega) with h | h | h <;> omega
    · refine ⟨i + width - start, by omega, ?_⟩
      rcases visit_cases fits inside (j := i + width - start) (by omega) with h | h | h <;> omega

/-- A scan whose sums do not wrap looks at every cell. -/
theorem inReach_of_le (few : 2 * n ≤ width) (bound : i < n) : InReach width n start i :=
  .inr (.inl (by omega))

theorem distance_lt (inside : start < n) (bound : i < n) : distance n start i < n := by
  unfold distance
  split <;> omega

/-- How far the scan has come in circular order. -/
theorem distance_visit (fits : n ≤ width) (inside : start < n) (bound : j < n) :
    (start + j < width ∧ distance n start (visit width n start j) = j) ∨
    (width ≤ start + j ∧ distance n start (visit width n start j) + width = j + n) := by
  have cell := visit_cases fits inside bound
  unfold distance
  split <;> omega

/-- While the sum does not wrap, the scan follows the circular order. -/
theorem visit_distance (fits : n ≤ width) (inside : start < n) (bound : i < n)
    (straight : start + distance n start i < width) :
    visit width n start (distance n start i) = i := by
  have cell := visit_cases fits inside (distance_lt inside bound)
  have far : distance n start i = if start ≤ i then i - start else i + n - start := rfl
  split at far <;> omega

/-- The cell found first is first in circular order, among all the cells. -/
theorem first_visited {p : Nat → Prop} (fits : n ≤ width) (inside : start < n) (bound : j < n)
    (first : ∀ k < j, ¬ p (visit width n start k)) (other : i < n) (here : p i) :
    distance n start (visit width n start j) ≤ distance n start i := by
  by_contra nearer
  have nearer := Nat.not_le.mp nearer
  have come := distance_visit fits inside bound
  by_cases straight : start + distance n start i < width
  · refine first (distance n start i) (by omega) ?_
    rwa [visit_distance fits inside other straight]
  · -- the scan has been at cell `i` since its sum wrapped
    have far : distance n start i = if start ≤ i then i - start else i + n - start := rfl
    have again := visit_cases fits inside (j := i + width - start)
    split at far
    · omega
    · refine first (i + width - start) (by omega) ?_
      have meets : visit width n start (i + width - start) = i := by
        rcases again (by omega) with h | h | h <;> omega
      rwa [meets]

end CircularScan
