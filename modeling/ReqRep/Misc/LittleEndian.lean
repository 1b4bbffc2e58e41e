import Mathlib

/-!
# Little-endian numbers in bytes

A number of `w` bytes at an offset of an unbounded byte array, low byte first.
-/

namespace LittleEndian

/-- The number in the `w` bytes from `off`. -/
def load (b : Nat → UInt8) (off : Nat) : Nat → Nat
  | 0 => 0
  | w + 1 => (b off).toNat + 256 * load b (off + 1) w

/-- The low `w` bytes of `v`, stored from `off`. -/
def store (b : Nat → UInt8) (off w v : Nat) : Nat → UInt8 := fun k =>
  if off ≤ k ∧ k < off + w then UInt8.ofNat (v / 256 ^ (k - off)) else b k

variable {b b' : Nat → UInt8} {off off' w w' v : Nat}

theorem load_congr (same : ∀ k, off ≤ k → k < off + w → b k = b' k) :
    load b off w = load b' off w := by
  induction w generalizing off with
  | zero => rfl
  | succ w ih =>
    rw [load, load, same off (Nat.le_refl _) (by omega)]
    rw [ih fun k low high => same k (by omega) (by omega)]

/-- Bytes that are the digits of `v`. -/
theorem load_digits (digits : ∀ j < w, (b (off + j)).toNat = v / 256 ^ j % 256) :
    load b off w = v % 256 ^ w := by
  induction w generalizing off v with
  | zero => simp [load, Nat.mod_one]
  | succ w ih =>
    have low := digits 0 (Nat.succ_pos w)
    have high := @ih (off + 1) (v / 256) fun j less => by
      rw [Nat.add_right_comm, Nat.add_assoc, digits (j + 1) (by omega), Nat.pow_succ',
        Nat.div_div_eq_div_mul]
    rw [load, high, Nat.pow_succ', Nat.mod_mul]
    simpa using low

/-- What was stored is what is loaded. -/
theorem load_store : load (store b off w v) off w = v % 256 ^ w := by
  refine load_digits fun j less => ?_
  rw [store, if_pos ⟨by omega, by omega⟩, Nat.add_sub_cancel_left, UInt8.toNat_ofNat']

/-- Other bytes keep what they hold. -/
theorem load_store_of_disjoint (apart : off' + w' ≤ off ∨ off + w ≤ off') :
    load (store b off w v) off' w' = load b off' w' := by
  refine load_congr fun k low high => ?_
  rw [store, if_neg (by omega)]

/-- Zero bytes are the number 0. -/
theorem load_zero (zero : ∀ k, off ≤ k → k < off + w → b k = 0) : load b off w = 0 := by
  rw [@load_digits b off w 0]
  · exact Nat.zero_mod _
  · intro j less
    rw [zero _ (by omega) (by omega), Nat.zero_div]
    rfl

end LittleEndian
