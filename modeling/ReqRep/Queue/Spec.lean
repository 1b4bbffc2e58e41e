import ReqRep.Misc.CircularBuffer
import ReqRep.Misc.Words
import ReqRep.Queue.Locked

/-!
# What each locked function stores

One specification for each function of `Queue.Locked`: its result and the list
of its stores, with the machine arithmetic resolved to natural numbers. The
later proofs use these and never unfold the functions.
-/

namespace ReqRep

open Exec

/-- The length check `trySend` makes before `sendLocked`. -/
def Short (data : List UInt8) : Prop := data.length ≤ layoutStrLenMask.toNat

instance (data : List UInt8) : Decidable (Short data) := inferInstanceAs (Decidable (_ ≤ _))

/-- `arenaAlloc` on the length as a number. -/
def allocate (len : Nat) : Nat := if len = 0 then 8 else (len + 7) / 8 * 8

section Words

variable {s : Shm} {data : List UInt8}

theorem short_lt (short : Short data) : data.length < 2 ^ 31 := by
  have bound : layoutStrLenMask.toNat = 2 ^ 31 - 1 := rfl
  unfold Short at short
  omega

theorem length_toNat (short : Short data) :
    (UInt32.ofNat data.length).toNat = data.length := by
  have := short_lt short
  rw [UInt32.toNat_ofNat', Nat.mod_eq_of_lt (by omega)]

theorem arenaAlloc_toNat (short : Short data) :
    (arenaAlloc (UInt32.ofNat data.length)).toNat = allocate data.length := by
  have := short_lt short
  have sum : (UInt32.ofNat data.length + 7).toNat = data.length + 7 := by
    rw [UInt32.toNat_add, length_toNat short]
    exact Nat.mod_eq_of_lt (by simp only [UInt32.reduceToNat]; omega)
  have rounded := Words.and_compl_seven_toNat (UInt32.ofNat data.length + 7)
  rw [sum] at rounded
  unfold arenaAlloc allocate
  dsimp only
  split
  · next zero =>
    rw [zero] at rounded
    have : (0 : UInt32).toNat = 0 := rfl
    rw [if_pos (by omega)]
    rfl
  · next nonzero =>
    have : (UInt32.ofNat data.length + 7 &&& ~~~7).toNat ≠ 0 :=
      fun zero => nonzero (UInt32.toNat_inj.mp zero)
    rw [if_neg (by omega), rounded]

theorem le_allocate (len : Nat) : len ≤ allocate len ∧ 8 ≤ allocate len := by
  unfold allocate
  split <;> omega

theorem allocate_fits {cap : Nat} (pos : 0 < cap) (room : data.length ≤ cap) :
    CircularBuffer.Fits cap 8 data.length (allocate data.length) := by
  generalize halloc : allocate data.length = alloc
  unfold allocate at halloc
  split at halloc <;> exact ⟨by decide, by omega, by omega, by omega, room⟩

theorem allocate_lt (short : Short data) : allocate data.length < 2 ^ 31 + 8 := by
  have := short_lt short
  unfold allocate
  split <;> omega

end Words

/-! ## The arena -/

/-- A placement of `data` in the arena of memory `m`: the offset, the charge,
the `arena_used` it is added to, and the stores of the reset if there was one. -/
structure Placed (s : Shm) (m : Mem) (data : List UInt8) (off skip base : Nat)
    (reset : List Write) : Prop where
  room : data.length ≤ s.reqArenaCap.toNat
  placed : CircularBuffer.place s.reqArenaCap.toNat (m.u32 .hdrArenaWpos).toNat
    (m.u32 .hdrArenaUsed).toNat (allocate data.length)
    (decide (m.u64 .hdrReqTail = m.u64 .hdrReqHead)) = some (off, skip, base)
  off_lt : off + allocate data.length < 2 ^ 32
  used_lt : base + skip < 2 ^ 32
  reset_eq : (reset = [] ∧ base = (m.u32 .hdrArenaUsed).toNat) ∨
    (reset = [.w32 .hdrArenaWpos 0, .w32 .hdrArenaUsed 0] ∧ base = 0 ∧
      m.u64 .hdrReqTail = m.u64 .hdrReqHead)

/-- The stores of a successful `writeArenaLocked`. -/
def arenaWrites (data : List UInt8) (off skip base : Nat) (reset : List Write) : List Write :=
  reset ++ copyWrites .arena off data ++
    [.w32 .hdrArenaWpos (UInt32.ofNat (off + allocate data.length)),
     .w32 .hdrArenaUsed (UInt32.ofNat (base + skip))]

/-- The result and the stores of `writeArenaLocked`. -/
inductive WroteArena (s : Shm) (m : Mem) (data : List UInt8) :
    Option (UInt32 × UInt32) → List Write → Prop where
  | tooLong (long : s.reqArenaCap.toNat < data.length) : WroteArena s m data none []
  | full (room : data.length ≤ s.reqArenaCap.toNat)
      (refused : CircularBuffer.place s.reqArenaCap.toNat (m.u32 .hdrArenaWpos).toNat
        (m.u32 .hdrArenaUsed).toNat (allocate data.length)
        (decide (m.u64 .hdrReqTail = m.u64 .hdrReqHead)) = none) :
      WroteArena s m data none [.w64 .hdrStatSendFull (m.u64 .hdrStatSendFull + 1)]
  | wrote {off skip base : Nat} {reset : List Write}
      (placed : Placed s m data off skip base reset) :
      WroteArena s m data (some (UInt32.ofNat off, UInt32.ofNat skip))
        (arenaWrites data off skip base reset)

theorem wraps_iff (wpos alloc cap : UInt32) :
    wpos.toUInt64 + alloc.toUInt64 > cap.toUInt64 ↔ cap.toNat < wpos.toNat + alloc.toNat := by
  have := wpos.toNat_lt
  have := alloc.toNat_lt
  rw [gt_iff_lt, UInt64.lt_iff_toNat_lt, UInt64.toNat_add]
  simp only [UInt32.toNat_toUInt64]
  rw [Nat.mod_eq_of_lt (by omega)]

/-- The charge of a wrapped block does not wrap around 2^64, also when the
write position has overshot the capacity. -/
private theorem skip_toNat {wpos alloc cap : UInt32}
    (bound : wpos.toNat ≤ alloc.toNat + cap.toNat) :
    (alloc.toUInt64 + (cap.toUInt64 - wpos.toUInt64)).toNat =
      alloc.toNat + cap.toNat - wpos.toNat := by
  have := wpos.toNat_lt
  have := alloc.toNat_lt
  have := cap.toNat_lt
  simp only [UInt64.toNat_add, UInt64.toNat_sub, UInt32.toNat_toUInt64]
  omega

@[simp] theorem arenaSlice_apply (s : Shm) (lo hi : UInt32) (w : World) :
    arenaSlice s lo hi w = if lo ≤ hi ∧ hi ≤ s.reqArenaCap then some ((), w) else none := by
  simp only [arenaSlice, ite_apply', pure_apply, panic_apply]

/-- A slice of `length` bytes within the capacity is in range. -/
theorem slice_in_range {s : Shm} {off length : UInt32}
    (bound : off.toNat + length.toNat ≤ s.reqArenaCap.toNat) :
    off ≤ off + length ∧ off + length ≤ s.reqArenaCap := by
  have := s.reqArenaCap.toNat_lt
  simp only [UInt32.le_iff_toNat_le, UInt32.toNat_add]
  rw [Nat.mod_eq_of_lt (by omega)]
  omega

/-- The copy and the two stores that commit it. -/
private theorem commit_run {s : Shm} {data : List UInt8} (short : Short data) {off : UInt32}
    (skip : UInt64) (w : World) (inRange : off.toNat + data.length ≤ s.reqArenaCap.toNat) :
    ((arenaSlice s off (off + UInt32.ofNat data.length) w).bind fun a =>
      (copyIn .arena off.toNat (data.take (UInt32.ofNat data.length).toNat) a.2).bind fun a =>
      (store32 .hdrArenaWpos (off + arenaAlloc (UInt32.ofNat data.length)) a.2).bind fun a =>
      (add32 .hdrArenaUsed skip.toUInt32 a.2).bind fun a =>
      some (some (off, skip.toUInt32), a.2)) =
    some (some (UInt32.ofNat off.toNat, UInt32.ofNat skip.toNat),
      w.extend (arenaWrites data off.toNat skip.toNat (w.mem.u32 .hdrArenaUsed).toNat [])) := by
  have hlen := length_toNat short
  have halloc := arenaAlloc_toNat short
  have slice : off ≤ off + UInt32.ofNat data.length ∧
      off + UInt32.ofNat data.length ≤ s.reqArenaCap :=
    slice_in_range (by rw [hlen]; exact inRange)
  have wposEq : off + arenaAlloc (UInt32.ofNat data.length) =
      UInt32.ofNat (off.toNat + allocate data.length) := by
    apply UInt32.toNat_inj.mp
    rw [UInt32.toNat_add, halloc, UInt32.toNat_ofNat']
  have usedEq : w.mem.u32 .hdrArenaUsed + skip.toUInt32 =
      UInt32.ofNat ((w.mem.u32 .hdrArenaUsed).toNat + skip.toNat) := by
    apply UInt32.toNat_inj.mp
    rw [UInt32.toNat_add, UInt64.toNat_toUInt32, UInt32.toNat_ofNat', Nat.add_mod_mod]
  have skipEq : skip.toUInt32 = UInt32.ofNat skip.toNat := by
    apply UInt32.toNat_inj.mp
    rw [UInt64.toNat_toUInt32, UInt32.toNat_ofNat']
  rw [arenaSlice_apply, if_pos slice, hlen, List.take_length]
  simp only [Option.bind_some, copyIn_apply, store32_apply, add32_apply, World.extend_extend,
    World.extend_mem, Mem.writeAll_cons, Mem.writeAll_nil, Mem.write_w32,
    Mem.set32_u32, writeAll_copyWrites_u32, reduceCtorEq, if_false, wposEq, usedEq,
    arenaWrites, List.nil_append, List.singleton_append]
  rw [skipEq, UInt32.ofNat_toNat]

/-- `writeArenaLocked` runs through, and what it does. -/
theorem writeArenaLocked_run {s : Shm} {data : List UInt8} (short : Short data) (w : World)
    (bound : (w.mem.u32 .hdrArenaWpos).toNat < s.reqArenaCap.toNat + 8) :
    ∃ r ws, writeArenaLocked s data w = some (r, w.extend ws) ∧
      WroteArena s w.mem data r ws := by
  have hshort := short_lt short
  have hlen := length_toNat short
  have halloc := arenaAlloc_toNat short
  have halloc_lt := allocate_lt short
  have hcap := s.reqArenaCap.toNat_lt
  unfold writeArenaLocked
  dsimp only
  simp only [ite_apply', bind_apply, pure_apply, load32_apply, load64_apply, Option.bind_some]
  have longIff : UInt32.ofNat data.length > s.reqArenaCap ↔
      s.reqArenaCap.toNat < data.length := by
    rw [gt_iff_lt, UInt32.lt_iff_toNat_lt, hlen]
  by_cases long : s.reqArenaCap.toNat < data.length
  · exact ⟨none, [], by rw [if_pos (longIff.mpr long), World.extend_nil], .tooLong long⟩
  rw [if_neg (fun h => long (longIff.mp h))]
  have room := Nat.not_lt.mp long
  have hunit := le_allocate data.length
  simp only [wraps_iff, halloc]
  -- the offset and the charge, before the fullness check
  generalize hoff : (if s.reqArenaCap.toNat < (w.mem.u32 .hdrArenaWpos).toNat +
    allocate data.length then 0 else w.mem.u32 .hdrArenaWpos) = off
  generalize hskip : (if s.reqArenaCap.toNat < (w.mem.u32 .hdrArenaWpos).toNat +
    allocate data.length then (arenaAlloc (UInt32.ofNat data.length)).toUInt64 +
      (s.reqArenaCap.toUInt64 - (w.mem.u32 .hdrArenaWpos).toUInt64)
    else (arenaAlloc (UInt32.ofNat data.length)).toUInt64) = skip
  have hoffNat : off.toNat = if s.reqArenaCap.toNat < (w.mem.u32 .hdrArenaWpos).toNat +
      allocate data.length then 0 else (w.mem.u32 .hdrArenaWpos).toNat := by
    rw [← hoff]
    split <;> rfl
  have hskipNat : skip.toNat = if s.reqArenaCap.toNat < (w.mem.u32 .hdrArenaWpos).toNat +
      allocate data.length then allocate data.length + s.reqArenaCap.toNat -
        (w.mem.u32 .hdrArenaWpos).toNat else allocate data.length := by
    rw [← hskip]
    split
    · rw [skip_toNat (by omega), halloc]
    · rw [UInt32.toNat_toUInt64, halloc]
  have placeEq : ∀ empty, CircularBuffer.place s.reqArenaCap.toNat
      (w.mem.u32 .hdrArenaWpos).toNat (w.mem.u32 .hdrArenaUsed).toNat (allocate data.length) empty =
      if (w.mem.u32 .hdrArenaUsed).toNat + skip.toNat ≤ s.reqArenaCap.toNat then
        some (off.toNat, skip.toNat, (w.mem.u32 .hdrArenaUsed).toNat)
      else if empty then some (0, allocate data.length, 0) else none := by
    intro empty
    rw [hoffNat, hskipNat]
    rfl
  have fullIff : (w.mem.u32 .hdrArenaUsed).toUInt64 + skip > s.reqArenaCap.toUInt64 ↔
      ¬ (w.mem.u32 .hdrArenaUsed).toNat + skip.toNat ≤ s.reqArenaCap.toNat := by
    have := (w.mem.u32 .hdrArenaUsed).toNat_lt
    have := (w.mem.u32 .hdrArenaWpos).toNat_lt
    have : skip.toNat < 2 ^ 34 := by
      rw [hskipNat]
      split <;> omega
    rw [gt_iff_lt, UInt64.lt_iff_toNat_lt, UInt64.toNat_add, Nat.not_le]
    simp only [UInt32.toNat_toUInt64]
    rw [Nat.mod_eq_of_lt (by omega)]
  simp only [fullIff]
  by_cases roomy : (w.mem.u32 .hdrArenaUsed).toNat + skip.toNat ≤ s.reqArenaCap.toNat
  · rw [if_neg (not_not.mpr roomy)]
    have inRange : off.toNat + data.length ≤ s.reqArenaCap.toNat ∧
        off.toNat + allocate data.length < 2 ^ 32 := by
      rw [hoffNat]
      split <;> omega
    refine ⟨_, _, commit_run short skip w inRange.1, .wrote ?_⟩
    exact ⟨room, by rw [placeEq, if_pos roomy], inRange.2, by omega, .inl ⟨rfl, rfl⟩⟩
  · rw [if_pos roomy]
    by_cases empty : w.mem.u64 .hdrReqTail = w.mem.u64 .hdrReqHead
    · have run := @commit_run s data short 0 (arenaAlloc (UInt32.ofNat data.length)).toUInt64
        (w.extend [.w32 .hdrArenaWpos 0, .w32 .hdrArenaUsed 0]) (by simpa using room)
      refine ⟨_, _, ?_, @WroteArena.wrote s w.mem data 0 (allocate data.length) 0
        [.w32 .hdrArenaWpos 0, .w32 .hdrArenaUsed 0] ?_⟩
      · rw [if_pos empty]
        simp only [store32_apply, Option.bind_some, World.extend_extend, List.singleton_append]
        refine run.trans ?_
        rw [UInt32.toNat_toUInt64, halloc]
        simp [arenaWrites]
      · exact ⟨room, by rw [placeEq, if_neg roomy, if_pos (by simpa using empty)],
          by omega, by omega, .inr ⟨rfl, rfl, empty⟩⟩
    · refine ⟨_, _, by rw [if_neg empty, add64_apply]; rfl, .full room ?_⟩
      rw [placeEq, if_neg roomy, if_neg (by simp [empty])]

/-! ## The queue -/

/-- A request: its bytes and the response slot and generation of its id. -/
structure Request where
  data : List UInt8
  respSlot : UInt32
  respGen : UInt32
  deriving DecidableEq, Repr

/-- The id `recvLocked` returns with the request. -/
def Request.id (r : Request) : UInt64 := packId r.respGen r.respSlot

/-- The ring index of a queue position. -/
def ringIndex (s : Shm) (position : UInt64) : UInt64 := position &&& s.reqCapMask.toUInt64

/-- The stores that fill the queue slot. -/
def fieldWrites (idx : UInt64) (r : Request) (off skip : Nat) : List Write :=
  [.w32 (.reqSlotArenaOff idx) (UInt32.ofNat off),
   .w32 (.reqSlotPackedLen idx) (UInt32.ofNat r.data.length),
   .w32 (.reqSlotArenaSkip idx) (UInt32.ofNat skip),
   .w32 (.reqSlotRespSlot idx) r.respSlot,
   .w32 (.reqSlotRespGen idx) r.respGen]

/-- The stores of a successful `sendLocked`. -/
def sendWrites (s : Shm) (m : Mem) (r : Request) (off skip base : Nat) (reset : List Write) :
    List Write :=
  arenaWrites r.data off skip base reset ++
    fieldWrites (ringIndex s (m.u64 .hdrReqTail)) r off skip ++
    [.w64 .hdrReqTail (m.u64 .hdrReqTail + 1),
     .w64 .hdrStatRequests (m.u64 .hdrStatRequests + 1)]

/-- The result and the stores of `sendLocked`. -/
inductive Sent (s : Shm) (m : Mem) (r : Request) : Bool → List Write → Prop where
  | queueFull (full : s.reqCap.toUInt64 ≤ m.u64 .hdrReqTail - m.u64 .hdrReqHead) :
      Sent s m r false [.w64 .hdrStatSendFull (m.u64 .hdrStatSendFull + 1)]
  | refused {ws : List Write} (space : m.u64 .hdrReqTail - m.u64 .hdrReqHead < s.reqCap.toUInt64)
      (refused : WroteArena s m r.data none ws) : Sent s m r false ws
  | sent {off skip base : Nat} {reset : List Write}
      (space : m.u64 .hdrReqTail - m.u64 .hdrReqHead < s.reqCap.toUInt64)
      (placed : Placed s m r.data off skip base reset) :
      Sent s m r true (sendWrites s m r off skip base reset)

/-- The arena stores touch neither the queue counters nor the statistics. -/
theorem arenaWrites_u64 {s : Shm} {m : Mem} {data : List UInt8} {off skip base : Nat}
    {reset : List Write} (placed : Placed s m data off skip base reset) :
    (m.writeAll (arenaWrites data off skip base reset)).u64 = m.u64 := by
  rcases placed.reset_eq with ⟨rfl, -⟩ | ⟨rfl, -, -⟩ <;>
    simp [arenaWrites, Mem.writeAll_append]

/-- `sendLocked` runs through, and what it does. -/
theorem sendLocked_run {s : Shm} {r : Request} (short : Short r.data)
    (slot : r.respSlot < s.respSlots) (w : World)
    (bound : (w.mem.u32 .hdrArenaWpos).toNat < s.reqArenaCap.toNat + 8) :
    ∃ ok ws, sendLocked s r.data r.respSlot r.respGen w = some (ok, w.extend ws) ∧
      Sent s w.mem r ok ws := by
  have inBounds : ¬ r.respSlot ≥ s.respSlots := by
    simpa using slot
  unfold sendLocked
  simp only [inBounds, if_false, bind_apply, load64_apply, Option.bind_some, ite_apply']
  by_cases full : w.mem.u64 .hdrReqTail - w.mem.u64 .hdrReqHead ≥ s.reqCap.toUInt64
  · exact ⟨false, _, by rw [if_pos full, add64_apply]; rfl, .queueFull full⟩
  rw [if_neg full]
  have space := UInt64.not_le.mp full
  obtain ⟨result, ws, run, wrote⟩ := writeArenaLocked_run short w bound
  rw [run]
  cases wrote with
  | tooLong long => exact ⟨false, _, rfl, .refused space (.tooLong long)⟩
  | full room refused => exact ⟨false, _, rfl, .refused space (.full room refused)⟩
  | wrote placed =>
    refine ⟨true, _, ?_, .sent space placed⟩
    simp only [Option.bind_some, bind_apply, store32_apply, add64_apply, pure_apply,
      World.extend_extend, World.extend_mem]
    have counters := arenaWrites_u64 placed
    simp [sendWrites, fieldWrites, ringIndex, Mem.writeAll_append, counters]

/-- The stores of `releaseArenaLocked`. -/
def releaseWrites (m : Mem) (skip : UInt32) : List Write :=
  let used := m.u32 .hdrArenaUsed
  let used := if used ≥ skip then used - skip else 0
  .w32 .hdrArenaUsed used :: if used = 0 then [.w32 .hdrArenaWpos 0] else []

theorem releaseArenaLocked_run (skip : UInt32) (w : World) :
    releaseArenaLocked skip w = some ((), w.extend (releaseWrites w.mem skip)) := by
  unfold releaseArenaLocked releaseWrites
  simp only [bind_apply, load32_apply, Option.bind_some, store32_apply, ite_apply', pure_apply]
  generalize (if w.mem.u32 .hdrArenaUsed ≥ skip then w.mem.u32 .hdrArenaUsed - skip else 0) = used
  split <;> simp

theorem releaseWrites_u64 (m : Mem) (skip : UInt32) :
    (m.writeAll (releaseWrites m skip)).u64 = m.u64 := by
  unfold releaseWrites
  dsimp only
  generalize (if m.u32 .hdrArenaUsed ≥ skip then m.u32 .hdrArenaUsed - skip else 0) = used
  split <;> rfl

/-- The stores of a successful `recvLocked`. -/
def recvWrites (s : Shm) (m : Mem) : List Write :=
  releaseWrites m (m.u32 (.reqSlotArenaSkip (ringIndex s (m.u64 .hdrReqHead)))) ++
    [.w64 .hdrReqHead (m.u64 .hdrReqHead + 1)]

/-- The queue slot at a ring index and the arena bytes it names hold `r`. -/
structure SlotHolds (s : Shm) (m : Mem) (idx : UInt64) (r : Request) (off skip : Nat) : Prop where
  short : Short r.data
  fits : off + r.data.length ≤ s.reqArenaCap.toNat
  arenaOff : (m.u32 (.reqSlotArenaOff idx)).toNat = off
  packedLen : (m.u32 (.reqSlotPackedLen idx)).toNat = r.data.length
  arenaSkip : (m.u32 (.reqSlotArenaSkip idx)).toNat = skip
  respSlot : m.u32 (.reqSlotRespSlot idx) = r.respSlot
  respGen : m.u32 (.reqSlotRespGen idx) = r.respGen
  bytes : ∀ j (h : j < r.data.length), m.u8 (.arena (off + j)) = r.data[j]

theorem recvLocked_empty (s : Shm) (w : World)
    (empty : w.mem.u64 .hdrReqTail = w.mem.u64 .hdrReqHead) :
    recvLocked s w = some (none,
      w.extend [.w32 .hdrStatRecvEmpty (w.mem.u32 .hdrStatRecvEmpty + 1)]) := by
  unfold recvLocked
  simp [empty]

/-- The bytes that the queue slot at a ring index names. -/
def slotBytes (m : Mem) (idx : UInt64) : List UInt8 :=
  (List.range (m.u32 (.reqSlotPackedLen idx) &&& layoutStrLenMask).toNat).map fun j =>
    m.u8 (.arena ((m.u32 (.reqSlotArenaOff idx)).toNat + j))

/-- The id in the queue slot at a ring index. -/
def slotId (m : Mem) (idx : UInt64) : UInt64 :=
  packId (m.u32 (.reqSlotRespGen idx)) (m.u32 (.reqSlotRespSlot idx))

/-- The bytes that the queue slot names lie in the arena. -/
def SlotFits (s : Shm) (m : Mem) (idx : UInt64) : Prop :=
  (m.u32 (.reqSlotArenaOff idx)).toNat +
    (m.u32 (.reqSlotPackedLen idx) &&& layoutStrLenMask).toNat ≤ s.reqArenaCap.toNat

/-- `recvLocked` returns the bytes and the id of the oldest slot. -/
theorem recvLocked_slot {s : Shm} {w : World}
    (nonempty : w.mem.u64 .hdrReqTail ≠ w.mem.u64 .hdrReqHead)
    (fits : SlotFits s w.mem (ringIndex s (w.mem.u64 .hdrReqHead))) :
    recvLocked s w = some (some (slotBytes w.mem (ringIndex s (w.mem.u64 .hdrReqHead)),
      slotId w.mem (ringIndex s (w.mem.u64 .hdrReqHead))), w.extend (recvWrites s w.mem)) := by
  have slice := slice_in_range fits
  unfold recvLocked readArena recvWrites slotBytes slotId
  simp only [ringIndex] at *
  simp only [bind_apply, load64_apply, load32_apply, Option.bind_some, ite_apply', if_neg nonempty,
    arenaSlice_apply, if_pos slice, copyOut_apply, releaseArenaLocked_run, add64_apply, pure_apply,
    World.extend_mem, World.extend_extend, releaseWrites_u64]

/-- `recvLocked` returns the request that the oldest slot holds. -/
theorem recvLocked_run {s : Shm} {w : World} {r : Request} {off skip : Nat}
    (nonempty : w.mem.u64 .hdrReqTail ≠ w.mem.u64 .hdrReqHead)
    (holds : SlotHolds s w.mem (ringIndex s (w.mem.u64 .hdrReqHead)) r off skip) :
    recvLocked s w = some (some (r.data, r.id), w.extend (recvWrites s w.mem)) := by
  have hshort := short_lt holds.short
  have lenEq : (w.mem.u32 (.reqSlotPackedLen (ringIndex s (w.mem.u64 .hdrReqHead))) &&&
      layoutStrLenMask).toNat = r.data.length := by
    rw [UInt32.toNat_and, holds.packedLen]
    exact (Nat.and_two_pow_sub_one_eq_mod _ 31).trans (Nat.mod_eq_of_lt hshort)
  have fits : SlotFits s w.mem (ringIndex s (w.mem.u64 .hdrReqHead)) := by
    rw [SlotFits, lenEq, holds.arenaOff]
    exact holds.fits
  have copied : slotBytes w.mem (ringIndex s (w.mem.u64 .hdrReqHead)) = r.data := by
    unfold slotBytes
    rw [lenEq, holds.arenaOff]
    refine List.ext_getElem (by simp) ?_
    intro j _ bound
    rw [List.getElem_map, List.getElem_range, holds.bytes j bound]
  rw [recvLocked_slot nonempty fits, copied, slotId, holds.respGen, holds.respSlot, Request.id]

end ReqRep
