import Mathlib

/-!
# A circular buffer with wasted tails

A buffer of `cap` cells hands out blocks in FIFO order. A block never straddles
the end of the buffer: when it does not fit behind the write position, the tail
is wasted and the block starts at 0. Each block is charged its allocation and
the tail wasted before it, and `used` is the sum the allocator keeps of these
charges.

Blocks are located relative to the lap the write position is on: a block of the
current lap starts at its own offset, one of the previous lap at its offset
minus `cap`. An allocation is at least `unit` cells and may exceed the buffer by
less than `unit`, so the write position can overshoot `cap` by that much.
-/

namespace CircularBuffer

/-- A block in use. `pos` is where its charge begins: the write position it was
allocated from, relative to the current lap. -/
structure Block where
  off : Nat
  len : Nat
  alloc : Nat
  skip : Nat
  pos : Int

namespace Block

/-- Where the data of the block starts, relative to the current lap. -/
def start (b : Block) : Int := b.pos + b.skip - b.alloc

/-- The same block seen from a lap that begins `d` cells later. -/
def shift (d : Int) (b : Block) : Block := { b with pos := b.pos - d }

@[simp] theorem shift_off (d : Int) (b : Block) : (b.shift d).off = b.off := rfl
@[simp] theorem shift_len (d : Int) (b : Block) : (b.shift d).len = b.len := rfl
@[simp] theorem shift_alloc (d : Int) (b : Block) : (b.shift d).alloc = b.alloc := rfl
@[simp] theorem shift_skip (d : Int) (b : Block) : (b.shift d).skip = b.skip := rfl
@[simp] theorem shift_pos (d : Int) (b : Block) : (b.shift d).pos = b.pos - d := rfl

@[simp] theorem shift_start (d : Int) (b : Block) : (b.shift d).start = b.start - d := by
  simp only [start, shift]
  omega

@[simp] theorem shift_zero (b : Block) : b.shift 0 = b := by
  simp [shift]

/-- A block that lies in the buffer. Its charge begins at or before its data,
except that the write position may have overshot the end of the previous lap. -/
structure Ok (cap unit : Nat) (b : Block) : Prop where
  len_le : b.len ≤ b.alloc
  charged : 0 < b.skip
  fits : b.off + b.len ≤ cap
  lap : b.start = b.off ∨ b.start = (b.off : Int) - cap
  lead : b.pos ≤ b.start ∨ (b.start = 0 ∧ b.pos < unit)

/-- The block shares no cell with the `len` cells from `off`. -/
def Apart (off len : Nat) (b : Block) : Prop :=
  off + len ≤ b.off ∨ b.off + b.len ≤ off

end Block

/-- The blocks in use, oldest first, agree with the write position and `used`. -/
structure Valid (cap unit wpos used : Nat) (bs : List Block) : Prop where
  overshoot : wpos < cap + unit
  blocks : ∀ b ∈ bs, b.Ok cap unit
  chain : bs.Pairwise fun a b : Block => a.pos + a.skip ≤ b.pos
  ends : ∀ b ∈ bs, b.pos + b.skip ≤ (wpos : Int)
  accounted : ∀ b ∈ bs, (wpos : Int) - b.pos ≤ used

/-- What the allocator does with a request of `alloc` cells: the offset of the
block, its charge, and the `used` it is added to. `none` is a refusal. -/
def place (cap wpos used alloc : Nat) (empty : Bool) : Option (Nat × Nat × Nat) :=
  let wraps := cap < wpos + alloc
  let skip := if wraps then alloc + cap - wpos else alloc
  if used + skip ≤ cap then some (if wraps then 0 else wpos, skip, used)
  else if empty then some (0, alloc, 0)
  else none

/-- A request of the allocator: `len` cells of data rounded up to `alloc`. -/
structure Fits (cap unit len alloc : Nat) : Prop where
  unit_pos : 0 < unit
  unit_le : unit ≤ alloc
  len_le : len ≤ alloc
  rounded : alloc < cap + unit
  len_le_cap : len ≤ cap

variable {cap unit wpos used alloc len off skip base : Nat} {bs : List Block}

/-- An empty buffer is valid whatever `used` says. -/
theorem Valid.nil (used : Nat) (bound : wpos < cap + unit) : Valid cap unit wpos used [] := by
  constructor <;> simp [bound]

theorem Valid.of_append {cs : List Block} (valid : Valid cap unit wpos used (bs ++ cs)) :
    Valid cap unit wpos used bs where
  overshoot := valid.overshoot
  blocks := fun b member => valid.blocks b (List.mem_append_left _ member)
  chain := (List.pairwise_append.mp valid.chain).1
  ends := fun b member => valid.ends b (List.mem_append_left _ member)
  accounted := fun b member => valid.accounted b (List.mem_append_left _ member)

/-! ## Placement -/

/-- The three ways a placement succeeds: behind the write position, at the start
after wasting the tail, or at the start of an empty buffer. -/
theorem place_cases {empty : Bool}
    (placed : place cap wpos used alloc empty = some (off, skip, base)) :
    (wpos + alloc ≤ cap ∧ off = wpos ∧ skip = alloc ∧ base = used ∧ used + skip ≤ cap) ∨
    (cap < wpos + alloc ∧ off = 0 ∧ skip = alloc + cap - wpos ∧ base = used ∧
      used + skip ≤ cap) ∨
    (empty = true ∧ off = 0 ∧ skip = alloc ∧ base = 0) := by
  simp only [place] at placed
  by_cases wraps : cap < wpos + alloc
  · rw [if_pos wraps, if_pos wraps] at placed
    split at placed
    · simp only [Option.some.injEq, Prod.mk.injEq] at placed
      omega
    · split at placed
      · simp only [Option.some.injEq, Prod.mk.injEq] at placed
        exact .inr (.inr ⟨by assumption, by omega⟩)
      · simp at placed
  · rw [if_neg wraps, if_neg wraps] at placed
    split at placed
    · simp only [Option.some.injEq, Prod.mk.injEq] at placed
      omega
    · split at placed
      · simp only [Option.some.injEq, Prod.mk.injEq] at placed
        exact .inr (.inr ⟨by assumption, by omega⟩)
      · simp at placed

/-- An empty buffer refuses nothing. -/
theorem place_empty (cap wpos used alloc : Nat) :
    place cap wpos used alloc true ≠ none := by
  unfold place
  dsimp only
  rw [if_pos rfl]
  by_cases room : used + (if cap < wpos + alloc then alloc + cap - wpos else alloc) ≤ cap
  · rw [if_pos room]
    exact Option.some_ne_none _
  · rw [if_neg room]
    exact Option.some_ne_none _

/-- A placed block lies in the buffer, and the write position behind it
overshoots by less than a unit. -/
theorem place_bounds {empty : Bool} (fits : Fits cap unit len alloc)
    (bound : wpos < cap + unit)
    (placed : place cap wpos used alloc empty = some (off, skip, base)) :
    off + len ≤ cap ∧ off + alloc < cap + unit ∧ 0 < skip ∧ base + skip < cap + unit := by
  have := fits.unit_pos
  have := fits.unit_le
  have := fits.len_le
  have := fits.rounded
  have := fits.len_le_cap
  rcases place_cases placed with h | h | h <;> omega

/-- A block placed behind the write position takes no cell of a live one. -/
private theorem apart_behind {b : Block} (fits : Fits cap unit len alloc)
    (ok : b.Ok cap unit) (ends : b.pos + b.skip ≤ (wpos : Int))
    (accounted : (wpos : Int) - b.pos ≤ used)
    (behind : wpos + alloc ≤ cap) (room : used + alloc ≤ cap) : b.Apart wpos len := by
  have := fits.len_le
  have := ok.len_le
  have startOf : b.start = b.pos + b.skip - b.alloc := rfl
  unfold Block.Apart
  rcases ok.lap with lap | lap <;> rcases ok.lead with lead | ⟨zero, lead⟩ <;> omega

/-- When the tail is wasted and the charges still fit, every live block is of
the lap that ends, and its charge begins where its data does or before. -/
private theorem lap_of_wraps {b : Block} (fits : Fits cap unit len alloc)
    (ok : b.Ok cap unit) (accounted : (wpos : Int) - b.pos ≤ used)
    (wraps : cap < wpos + alloc) (room : used + (alloc + cap - wpos) ≤ cap) :
    b.start = b.off ∧ b.pos ≤ b.start ∧ (alloc : Int) ≤ b.start := by
  have := fits.unit_pos
  have := fits.unit_le
  have := ok.len_le
  have := ok.fits
  have := ok.charged
  have startOf : b.start = b.pos + b.skip - b.alloc := rfl
  rcases ok.lap with lap | lap <;> rcases ok.lead with lead | ⟨zero, lead⟩ <;> omega

/-- Placing behind the write position. -/
private theorem place_behind (valid : Valid cap unit wpos used bs)
    (fits : Fits cap unit len alloc) (behind : wpos + alloc ≤ cap)
    (room : used + alloc ≤ cap) :
    Valid cap unit (wpos + alloc) (used + alloc) (bs ++ [⟨wpos, len, alloc, alloc, wpos⟩]) ∧
      ∀ b ∈ bs, b.Apart wpos len := by
  have := fits.unit_pos
  have := fits.unit_le
  have := fits.len_le
  refine ⟨⟨by omega, ?_, ?_, ?_, ?_⟩, ?_⟩
  · intro b member
    rcases List.mem_append.mp member with old | new
    · exact valid.blocks b old
    · obtain rfl := List.mem_singleton.mp new
      exact ⟨fits.len_le, by dsimp only; omega, by dsimp only; omega,
        .inl (by simp only [Block.start]; omega), .inl (by simp only [Block.start]; omega)⟩
  · refine List.pairwise_append.mpr ⟨valid.chain, List.pairwise_singleton _ _, ?_⟩
    intro a old b new
    obtain rfl := List.mem_singleton.mp new
    exact valid.ends a old
  · intro b member
    rcases List.mem_append.mp member with old | new
    · have := valid.ends b old
      omega
    · obtain rfl := List.mem_singleton.mp new
      dsimp only
      omega
  · intro b member
    rcases List.mem_append.mp member with old | new
    · have := valid.accounted b old
      omega
    · obtain rfl := List.mem_singleton.mp new
      dsimp only
      omega
  · intro b member
    exact apart_behind fits (valid.blocks b member) (valid.ends b member)
      (valid.accounted b member) behind room

/-- Placing at the start after wasting the tail. -/
private theorem place_wraps (valid : Valid cap unit wpos used bs)
    (fits : Fits cap unit len alloc) (wraps : cap < wpos + alloc)
    (room : used + (alloc + cap - wpos) ≤ cap) :
    Valid cap unit alloc (used + (alloc + cap - wpos))
        (bs.map (Block.shift cap) ++
          [⟨0, len, alloc, alloc + cap - wpos, (wpos : Int) - cap⟩]) ∧
      ∀ b ∈ bs, b.Apart 0 len := by
  have := fits.unit_pos
  have := fits.unit_le
  have := fits.len_le
  have := fits.rounded
  have := fits.len_le_cap
  have := valid.overshoot
  have lapse : ∀ b ∈ bs, b.start = b.off ∧ b.pos ≤ b.start ∧ (alloc : Int) ≤ b.start :=
    fun b member => lap_of_wraps fits (valid.blocks b member) (valid.accounted b member)
      wraps room
  refine ⟨⟨by omega, ?_, ?_, ?_, ?_⟩, ?_⟩
  · intro b member
    rcases List.mem_append.mp member with old | new
    · obtain ⟨a, live, rfl⟩ := List.mem_map.mp old
      obtain ⟨current, lead, -⟩ := lapse a live
      have ok := valid.blocks a live
      exact ⟨ok.len_le, ok.charged, ok.fits, .inr (by simp [current]), .inl (by simp [lead])⟩
    · obtain rfl := List.mem_singleton.mp new
      refine ⟨fits.len_le, by dsimp only; omega, by dsimp only; omega, .inl ?_, ?_⟩
      · simp only [Block.start]
        omega
      · simp only [Block.start]
        omega
  · refine List.pairwise_append.mpr ⟨?_, List.pairwise_singleton _ _, ?_⟩
    · refine List.pairwise_map.mpr (valid.chain.imp ?_)
      intro a b before
      simp only [Block.shift_pos, Block.shift_skip]
      omega
    · intro a old b new
      obtain rfl := List.mem_singleton.mp new
      obtain ⟨a, live, rfl⟩ := List.mem_map.mp old
      have := valid.ends a live
      simp only [Block.shift_pos, Block.shift_skip]
      omega
  · intro b member
    rcases List.mem_append.mp member with old | new
    · obtain ⟨a, live, rfl⟩ := List.mem_map.mp old
      have := valid.ends a live
      simp only [Block.shift_pos, Block.shift_skip]
      omega
    · obtain rfl := List.mem_singleton.mp new
      dsimp only
      omega
  · intro b member
    rcases List.mem_append.mp member with old | new
    · obtain ⟨a, live, rfl⟩ := List.mem_map.mp old
      have := valid.accounted a live
      simp only [Block.shift_pos]
      omega
    · obtain rfl := List.mem_singleton.mp new
      dsimp only
      omega
  · intro b member
    obtain ⟨current, -, clear⟩ := lapse b member
    exact .inl (by omega)

/-- A successful placement keeps the blocks in use valid on the new lap, adds
the new block behind them, and takes no cell of theirs. -/
theorem Valid.place (valid : Valid cap unit wpos used bs) (fits : Fits cap unit len alloc)
    (placed : place cap wpos used alloc bs.isEmpty = some (off, skip, base)) :
    ∃ d pos, Valid cap unit (off + alloc) (base + skip)
        (bs.map (Block.shift d) ++ [⟨off, len, alloc, skip, pos⟩]) ∧
      ∀ b ∈ bs, b.Apart off len := by
  rcases place_cases placed with ⟨behind, rfl, rfl, rfl, room⟩ |
    ⟨wraps, rfl, rfl, rfl, room⟩ | ⟨empty, rfl, rfl, rfl⟩
  · refine ⟨0, off, ?_⟩
    have same : bs.map (Block.shift 0) = bs := by
      rw [show Block.shift 0 = id from funext Block.shift_zero, List.map_id]
    rw [same]
    exact place_behind valid fits behind room
  · refine ⟨cap, (wpos : Int) - cap, ?_⟩
    rw [Nat.zero_add]
    exact place_wraps valid fits wraps room
  · obtain rfl := List.isEmpty_iff.mp empty
    have := fits.unit_pos
    have := fits.unit_le
    have := fits.rounded
    have := fits.len_le_cap
    refine ⟨0, 0, ⟨by omega, ?_, by simp, by simp, by simp⟩, by simp⟩
    intro b new
    obtain rfl := List.mem_singleton.mp new
    exact ⟨fits.len_le, by dsimp only; omega, by dsimp only; omega,
      .inl (by simp [Block.start]), .inl (by simp [Block.start])⟩

/-! ## Release -/

variable {b : Block}

/-- The oldest block's charge is part of `used`. -/
theorem Valid.skip_le_used (valid : Valid cap unit wpos used (b :: bs)) : b.skip ≤ used := by
  have := valid.ends b List.mem_cons_self
  have := valid.accounted b List.mem_cons_self
  omega

/-- Releasing the oldest block takes its charge back. -/
theorem Valid.release (valid : Valid cap unit wpos used (b :: bs)) :
    Valid cap unit wpos (used - b.skip) bs where
  overshoot := valid.overshoot
  blocks := fun c member => valid.blocks c (List.mem_cons_of_mem _ member)
  chain := (List.pairwise_cons.mp valid.chain).2
  ends := fun c member => valid.ends c (List.mem_cons_of_mem _ member)
  accounted := fun c member => by
    have := (List.pairwise_cons.mp valid.chain).1 c member
    have := valid.accounted b List.mem_cons_self
    have := valid.skip_le_used
    omega

/-- When nothing is charged, no block is in use. -/
theorem Valid.eq_nil (valid : Valid cap unit wpos 0 bs) : bs = [] := by
  cases bs with
  | nil => rfl
  | cons b bs =>
    have := valid.ends b List.mem_cons_self
    have := valid.accounted b List.mem_cons_self
    have := (valid.blocks b List.mem_cons_self).charged
    omega

/-- The write position may return to the start when nothing is charged. -/
theorem Valid.reset (valid : Valid cap unit wpos 0 bs) (unit_pos : 0 < unit) :
    Valid cap unit 0 0 bs := by
  obtain rfl := valid.eq_nil
  exact .nil 0 (by omega)

end CircularBuffer
