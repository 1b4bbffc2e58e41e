import Mathlib

/-!
# Masks on machine words

Rounding to a multiple of 8 with `&^ 7`, and the ring index `& (cap - 1)`, as
arithmetic on the values.
-/

namespace Words

/-- The two halves of a word under a mask. -/
theorem and_add_and_compl {w : Nat} (x y : BitVec w) : (x &&& y) + (x &&& ~~~y) = x := by
  rw [BitVec.add_eq_or_of_and_eq_zero]
  · ext i hi
    simp only [BitVec.getElem_or, BitVec.getElem_and, BitVec.getElem_not]
    cases x[i] <;> cases y[i] <;> rfl
  · ext i hi
    simp only [BitVec.getElem_and, BitVec.getElem_not, BitVec.getElem_zero]
    cases x[i] <;> cases y[i] <;> rfl

/-- Clearing the low `k` bits rounds down to a multiple of `2 ^ k`. -/
theorem and_compl_mask_toNat {w : Nat} (x : BitVec w) {k : Nat} (le : k ≤ w) :
    (x &&& ~~~BitVec.ofNat w (2 ^ k - 1)).toNat = x.toNat / 2 ^ k * 2 ^ k := by
  have mask : (BitVec.ofNat w (2 ^ k - 1)).toNat = 2 ^ k - 1 := by
    have pow := Nat.pow_le_pow_right (by decide : 0 < 2) le
    have := Nat.two_pow_pos k
    rw [BitVec.toNat_ofNat, Nat.mod_eq_of_lt (by omega)]
  have split := congrArg BitVec.toNat (and_add_and_compl x (BitVec.ofNat w (2 ^ k - 1)))
  have low : (x &&& BitVec.ofNat w (2 ^ k - 1)).toNat = x.toNat % 2 ^ k := by
    rw [BitVec.toNat_and, mask, Nat.and_two_pow_sub_one_eq_mod]
  have high : (x &&& ~~~BitVec.ofNat w (2 ^ k - 1)).toNat ≤ x.toNat := by
    rw [BitVec.toNat_and]
    exact Nat.and_le_left
  have parts := Nat.div_add_mod x.toNat (2 ^ k)
  have bound := x.isLt
  have less := Nat.mod_lt x.toNat (Nat.two_pow_pos k)
  rw [Nat.mul_comm] at parts
  rw [BitVec.toNat_add, low] at split
  by_cases fits : x.toNat % 2 ^ k + (x &&& ~~~BitVec.ofNat w (2 ^ k - 1)).toNat < 2 ^ w
  · rw [Nat.mod_eq_of_lt fits] at split
    omega
  · rw [Nat.mod_eq_sub_mod (by omega), Nat.mod_eq_of_lt (by omega)] at split
    omega

theorem and_compl_seven_toNat (x : UInt32) : (x &&& ~~~7).toNat = x.toNat / 8 * 8 :=
  @and_compl_mask_toNat 32 x.toBitVec 3 (by decide)

theorem and_compl_sixtyThree_toNat (x : UInt32) : (x &&& ~~~63).toNat = x.toNat / 64 * 64 :=
  @and_compl_mask_toNat 32 x.toBitVec 6 (by decide)

theorem and_compl_seven_toNat64 (x : UInt64) : (x &&& ~~~7).toNat = x.toNat / 8 * 8 :=
  @and_compl_mask_toNat 64 x.toBitVec 3 (by decide)

theorem and_compl_sixtyThree_toNat64 (x : UInt64) : (x &&& ~~~63).toNat = x.toNat / 64 * 64 :=
  @and_compl_mask_toNat 64 x.toBitVec 6 (by decide)

/-- `n` rounded up to a multiple of `unit`. -/
def roundUp (unit n : Nat) : Nat := (n + (unit - 1)) / unit * unit

theorem le_roundUp {unit : Nat} (pos : 0 < unit) (n : Nat) : n ≤ roundUp unit n := by
  have parts := Nat.div_add_mod (n + (unit - 1)) unit
  have less := Nat.mod_lt (n + (unit - 1)) pos
  rw [Nat.mul_comm] at parts
  unfold roundUp
  omega

theorem dvd_roundUp (unit n : Nat) : unit ∣ roundUp unit n := Nat.dvd_mul_left _ _

/-- A capacity that passes the check `cap != 0 && cap & (cap - 1) == 0`. -/
structure PowerOfTwo (cap : UInt32) : Prop where
  nonzero : cap ≠ 0
  mask : cap &&& (cap - 1) = 0

instance (cap : UInt32) : Decidable (PowerOfTwo cap) :=
  decidable_of_iff (cap ≠ 0 ∧ cap &&& (cap - 1) = 0)
    ⟨fun h => ⟨h.1, h.2⟩, fun h => ⟨h.1, h.2⟩⟩

variable {cap : UInt32}

namespace PowerOfTwo

theorem pos (pow : PowerOfTwo cap) : 0 < cap.toNat := by
  have := pow.nonzero
  rcases Nat.eq_zero_or_pos cap.toNat with zero | pos
  · exact absurd (UInt32.toNat_inj.mp zero) this
  · exact pos

theorem pred_toNat (pow : PowerOfTwo cap) : (cap - 1).toNat = cap.toNat - 1 := by
  rw [UInt32.toNat_sub_of_le]
  · rfl
  · exact UInt32.le_iff_toNat_le.mpr pow.pos

theorem exists_pow (pow : PowerOfTwo cap) : ∃ k, cap.toNat = 2 ^ k := by
  have zero := congrArg UInt32.toNat pow.mask
  rw [UInt32.toNat_and, pow.pred_toNat] at zero
  have nonzero : cap.toNat ≠ 0 := by
    have := pow.pos
    omega
  exact (Nat.and_sub_one_eq_zero_iff_isPowerOfTwo nonzero).mp zero

theorem dvd (pow : PowerOfTwo cap) : cap.toNat ∣ 2 ^ 64 := by
  obtain ⟨k, value⟩ := pow.exists_pow
  have bound := cap.toNat_lt
  rw [value] at bound ⊢
  refine Nat.pow_dvd_pow 2 ?_
  have := (Nat.pow_lt_pow_iff_right (by omega : 1 < 2)).mp bound
  omega

/-- Masking a counter with `cap - 1` is its remainder. -/
theorem and_mask_toNat (pow : PowerOfTwo cap) (c : UInt64) :
    (c &&& (cap - 1).toUInt64).toNat = c.toNat % cap.toNat := by
  obtain ⟨k, value⟩ := pow.exists_pow
  rw [UInt64.toNat_and, UInt32.toNat_toUInt64, pow.pred_toNat, value,
    Nat.and_two_pow_sub_one_eq_mod]

/-- Two counters less than `cap` apart have different ring indices, also where
the counter wraps. -/
theorem index_inj (pow : PowerOfTwo cap) (c : UInt64) {i j : Nat}
    (hi : i < cap.toNat) (hj : j < cap.toNat)
    (same : (c + UInt64.ofNat i) &&& (cap - 1).toUInt64 =
      (c + UInt64.ofNat j) &&& (cap - 1).toUInt64) : i = j := by
  have index : ∀ k, ((c + UInt64.ofNat k) &&& (cap - 1).toUInt64).toNat =
      (c.toNat + k) % cap.toNat := by
    intro k
    rw [pow.and_mask_toNat, UInt64.toNat_add, UInt64.toNat_ofNat', Nat.mod_mod_of_dvd _ pow.dvd,
      Nat.add_mod, Nat.mod_mod_of_dvd _ pow.dvd, ← Nat.add_mod]
  have same := congrArg UInt64.toNat same
  rw [index, index] at same
  exact (Nat.ModEq.add_left_cancel' c.toNat same).eq_of_lt_of_lt hi hj

end PowerOfTwo

/-! ## Rounding up to a power of two -/

/-- Every bit of `w` is set that is at or less than `m` places below a bit of `v`. -/
def Spreads (v m w : Nat) : Prop := ∀ i, w.testBit i = true ↔ ∃ j < m, v.testBit (i + j) = true

/-- A value without a shift. -/
theorem Spreads.one (v : Nat) : Spreads v 1 v := by
  intro i
  constructor
  · intro set
    exact ⟨0, Nat.one_pos, set⟩
  · rintro ⟨j, less, set⟩
    obtain rfl := Nat.lt_one_iff.mp less
    exact set

/-- A shift by `m` doubles how far the bits spread. -/
theorem Spreads.double {v m w : Nat} (spreads : Spreads v m w) :
    Spreads v (m + m) (w ||| w >>> m) := by
  intro i
  rw [Nat.testBit_or, Nat.testBit_shiftRight, Bool.or_eq_true, spreads, spreads]
  constructor
  · rintro (⟨j, less, set⟩ | ⟨j, less, set⟩)
    · exact ⟨j, by omega, set⟩
    · exact ⟨m + j, by omega, by rwa [← Nat.add_assoc, Nat.add_comm i m]⟩
  · rintro ⟨j, less, set⟩
    by_cases near : j < m
    · exact .inl ⟨j, near, set⟩
    · refine .inr ⟨j - m, by omega, ?_⟩
      rwa [show m + i + (j - m) = i + j by omega]

/-- All bits up to the highest one. -/
theorem Spreads.eq_pred {v m w : Nat} (spreads : Spreads v m w) (nonzero : v ≠ 0)
    (wide : v < 2 ^ m) : w = 2 ^ (v.log2 + 1) - 1 := by
  have below : v.log2 < m := (Nat.log2_lt nonzero).mpr wide
  apply Nat.eq_of_testBit_eq
  intro i
  rw [Nat.testBit_two_pow_sub_one, Bool.eq_iff_iff, spreads, decide_eq_true_iff]
  constructor
  · rintro ⟨j, -, set⟩
    by_contra above
    have small : v < 2 ^ (i + j) :=
      Nat.lt_of_lt_of_le Nat.lt_log2_self (Nat.pow_le_pow_right (by decide) (by omega))
    rw [Nat.testBit_lt_two_pow small] at set
    cases set
  · intro less
    refine ⟨v.log2 - i, by omega, ?_⟩
    rw [Nat.add_sub_cancel' (by omega)]
    exact Nat.testBit_log2 nonzero

/-- `v |= v >> 1` up to `v |= v >> 16`. -/
def smear (v : UInt32) : UInt32 :=
  let v := v ||| (v >>> 1)
  let v := v ||| (v >>> 2)
  let v := v ||| (v >>> 4)
  let v := v ||| (v >>> 8)
  v ||| (v >>> 16)

theorem smear_toNat {v : UInt32} (nonzero : v ≠ 0) :
    (smear v).toNat = 2 ^ (v.toNat.log2 + 1) - 1 := by
  have spreads := (Spreads.one v.toNat).double.double.double.double.double
  refine Spreads.eq_pred ?_ (fun zero => nonzero (UInt32.toNat_inj.mp zero)) v.toNat_lt
  unfold smear
  simpa only [UInt32.toNat_or, UInt32.toNat_shiftRight, UInt32.reduceToNat, Nat.reduceMod,
    Nat.reduceAdd] using spreads

end Words
