import Mathlib

/-!
# Counting threads

How many threads are at a place that meets a condition, and how the number
changes when one of them moves.
-/

/-! ## Threads -/

/-- Named, so that definitions hold no proofs of these. -/
instance memThreads {n : Nat} (t : Fin n) (ts : List (Fin n)) : Decidable (t ∈ ts) := inferInstance

instance neZeroTwo : NeZero 2 := ⟨by decide⟩

instance neZeroThree : NeZero 3 := ⟨by decide⟩

namespace Count

variable {ι α : Type} [Fintype ι]

/-- How many indices have a value that meets `p`. -/
def count (p : α → Bool) (f : ι → α) : Nat := ∑ t, (p (f t)).toNat

theorem count_congr {p : α → Bool} {f g : ι → α} (same : ∀ t, p (g t) = p (f t)) :
    count p g = count p f := Finset.sum_congr rfl fun t _ => by rw [same t]

theorem count_mono {p q : α → Bool} {f g : ι → α} (imp : ∀ t, p (f t) = true → q (g t) = true) :
    count p f ≤ count q g := by
  refine Finset.sum_le_sum fun t _ => ?_
  cases here : p (f t) with
  | false => exact Nat.zero_le _
  | true => rw [imp t here]

theorem count_le_card (p : α → Bool) (f : ι → α) : count p f ≤ Fintype.card ι := by
  have bound : count p f ≤ ∑ _t : ι, 1 := Finset.sum_le_sum fun t _ => Bool.toNat_le _
  simpa using bound

theorem count_pos {p : α → Bool} {f : ι → α} {t : ι} (here : p (f t) = true) : 0 < count p f := by
  have le : (p (f t)).toNat ≤ count p f :=
    Finset.single_le_sum (f := fun t => (p (f t)).toNat) (fun _ _ => Nat.zero_le _)
      (Finset.mem_univ t)
  rw [here] at le
  exact le

theorem count_eq_zero {p : α → Bool} {f : ι → α} : count p f = 0 ↔ ∀ t, p (f t) = false := by
  constructor
  · intro zero t
    by_contra here
    exact absurd zero (Nat.ne_of_gt (count_pos (Bool.not_eq_false _ ▸ here)))
  · intro none
    exact Finset.sum_eq_zero fun t _ => by rw [none t]; rfl

theorem exists_of_count_pos {p : α → Bool} {f : ι → α} (pos : 0 < count p f) :
    ∃ t, p (f t) = true := by
  by_contra none
  rw [not_exists] at none
  exact absurd (count_eq_zero.mpr fun t => Bool.eq_false_iff.mpr (none t)) (Nat.ne_of_gt pos)

variable [DecidableEq ι]

/-- One index moves. -/
theorem count_update (p : α → Bool) (f : ι → α) (t : ι) (a : α) :
    count p (Function.update f t a) + (p (f t)).toNat = count p f + (p a).toNat := by
  have moved : (fun x => (p (Function.update f t a x)).toNat) =
      Function.update (fun x => (p (f x)).toNat) t (p a).toNat := by
    funext x
    by_cases same : x = t
    · subst same
      simp
    · simp [same]
  unfold count
  rw [moved, Finset.sum_update_of_mem (Finset.mem_univ t),
    Finset.sum_eq_add_sum_sdiff_singleton_of_mem (Finset.mem_univ t) fun x => (p (f x)).toNat]
  omega

/-- The value of one index alone changes, as far as the condition sees it. -/
theorem count_of_ne {p : α → Bool} {f g : ι → α} {t : ι}
    (same : ∀ t' ≠ t, p (g t') = p (f t')) :
    count p g + (p (f t)).toNat = count p f + (p (g t)).toNat := by
  rw [← count_update p f t (g t)]
  congr 1
  refine count_congr fun t' => ?_
  by_cases here : t' = t
  · rw [here, Function.update_self]
  · rw [Function.update_of_ne here, same t' here]

end Count
