import ReqRep.Misc.Runs
import ReqRep.Queue.Accounting
import ReqRep.Queue.Fifo

/-!
# The queue of the C library

`reqrep_send_locked` and `reqrep_recv_locked` of `reqrep.h`, of which
`sendLocked` and `recvLocked` are ports. Whatever mix of the four has run, the
two pairs do the same next.
-/

namespace ReqRep

open Exec

/-! ## The C functions -/

/-- `REQREP_UTF8_FLAG`. -/
def reqrepUtf8Flag : UInt32 := 0x80000000

/-- The length with the flag of its encoding, as `packed_len` holds it. -/
def packLen (len : UInt32) (utf8 : Bool) : UInt32 := len ||| if utf8 then reqrepUtf8Flag else 0

/-- `reqrep_send_locked`: 1 is ok, 0 full, -2 too long. -/
def reqrepSendLocked (h : Shm) (str : List UInt8) (utf8 : Bool) (respSlotIdx respGen : UInt32) :
    Exec Int := do
  let len := UInt32.ofNat str.length
  if len > layoutStrLenMask then
    return -2
  if (← load64 .hdrReqTail) - (← load64 .hdrReqHead) ≥ h.reqCap.toUInt64 then
    let _ ← add64 .hdrStatSendFull 1
    return 0
  let alloc := arenaAlloc len
  let pos ← load32 .hdrArenaWpos
  let wraps := pos.toUInt64 + alloc.toUInt64 > h.reqArenaCap.toUInt64
  -- the subtraction is of 32-bit words here
  let skip := if wraps then alloc.toUInt64 + (h.reqArenaCap - pos).toUInt64 else alloc.toUInt64
  let pos := if wraps then 0 else pos
  let (pos, skip) ←
    if (← load32 .hdrArenaUsed).toUInt64 + skip > h.reqArenaCap.toUInt64 then do
      if (← load64 .hdrReqTail) = (← load64 .hdrReqHead) then
        store32 .hdrArenaWpos 0
        store32 .hdrArenaUsed 0
        pure (0, alloc.toUInt64)
      else
        let _ ← add64 .hdrStatSendFull 1
        return 0
    else pure (pos, skip)
  copyIn .arena pos.toNat (str.take len.toNat)
  let idx := ((← load64 .hdrReqTail) &&& h.reqCapMask.toUInt64).toUInt32.toUInt64
  store32 (.reqSlotArenaOff idx) pos
  store32 (.reqSlotPackedLen idx) (packLen len utf8)
  store32 (.reqSlotArenaSkip idx) skip.toUInt32
  store32 (.reqSlotRespSlot idx) respSlotIdx
  store32 (.reqSlotRespGen idx) respGen
  store32 .hdrArenaWpos (pos + alloc)
  let _ ← add32 .hdrArenaUsed skip.toUInt32
  let _ ← add64 .hdrReqTail 1
  let _ ← add64 .hdrStatRequests 1
  return 1

/-- What `reqrep_recv_locked` returns: 0 is empty, -1 out of memory, 1 ok with
the string, its encoding and the id. -/
inductive RecvResult where
  | empty
  | oom
  | ok (str : List UInt8) (utf8 : Bool) (id : UInt64)
  deriving DecidableEq, Repr

/-- `reqrep_recv_locked`. The copy buffer belongs to the handle:
`ensureCopyBuf needed` says whether `reqrep_ensure_copy_buf` succeeds. -/
def reqrepRecvLocked (h : Shm) (ensureCopyBuf : UInt32 → Bool) : Exec RecvResult := do
  if (← load64 .hdrReqTail) = (← load64 .hdrReqHead) then
    let _ ← add32 .hdrStatRecvEmpty 1
    return .empty
  let idx := ((← load64 .hdrReqHead) &&& h.reqCapMask.toUInt64).toUInt32.toUInt64
  let len := (← load32 (.reqSlotPackedLen idx)) &&& layoutStrLenMask
  let utf8 := decide ((← load32 (.reqSlotPackedLen idx)) &&& reqrepUtf8Flag ≠ 0)
  let id := packId (← load32 (.reqSlotRespGen idx)) (← load32 (.reqSlotRespSlot idx))
  if !ensureCopyBuf (len + 1) then
    return .oom
  let str ← copyOut .arena (← load32 (.reqSlotArenaOff idx)).toNat len.toNat
  if (← load32 .hdrArenaUsed) ≥ (← load32 (.reqSlotArenaSkip idx)) then
    store32 .hdrArenaUsed ((← load32 .hdrArenaUsed) - (← load32 (.reqSlotArenaSkip idx)))
  else
    store32 .hdrArenaUsed 0
  if (← load32 .hdrArenaUsed) = 0 then
    store32 .hdrArenaWpos 0
  let _ ← add64 .hdrReqHead 1
  return .ok str utf8 id

variable {s : Shm} {m m' : Mem} {r : Request}

/-! ## Words -/

/-- A position masked by `req_cap_mask` fits 32 bits. -/
private theorem ringIndex_toUInt32 (s : Shm) (position : UInt64) :
    (position &&& s.reqCapMask.toUInt64).toUInt32.toUInt64 = ringIndex s position := by
  apply UInt64.toNat_inj.mp
  have le : (position.toNat &&& s.reqCapMask.toNat) ≤ s.reqCapMask.toNat := Nat.and_le_right
  have lt := s.reqCapMask.toNat_lt
  rw [ringIndex, UInt32.toNat_toUInt64, UInt64.toNat_toUInt32, UInt64.toNat_and,
    UInt32.toNat_toUInt64, Nat.mod_eq_of_lt (Nat.lt_of_le_of_lt le lt)]

theorem packLen_false (len : UInt32) : packLen len false = len := UInt32.or_zero

/-- The flag is outside the mask. -/
theorem packLen_mask (len : UInt32) (utf8 : Bool) :
    packLen len utf8 &&& layoutStrLenMask = len &&& layoutStrLenMask := by
  cases utf8 with
  | false => rw [packLen_false]
  | true =>
    have apart : reqrepUtf8Flag.toBitVec &&& layoutStrLenMask.toBitVec = 0 := by decide
    apply UInt32.toBitVec_inj.mp
    simp only [packLen, if_true, UInt32.toBitVec_and, UInt32.toBitVec_or,
      BitVec.and_or_distrib_right, apart]
    exact BitVec.or_zero

/-! ## Sending -/

/-- The memory with the encoding flag added to the length in a queue slot. -/
def Mem.flag (m : Mem) (idx : UInt64) (utf8 : Bool) : Mem :=
  m.set32 (.reqSlotPackedLen idx) (packLen (m.u32 (.reqSlotPackedLen idx)) utf8)

theorem Mem.flag_false (m : Mem) (idx : UInt64) : m.flag idx false = m := by
  rw [Mem.flag, packLen_false]
  refine Mem.ext (funext fun l => ?_) rfl rfl
  rw [Mem.set32_u32]
  split
  · next same => rw [same]
  · rfl

/-- The stores of a successful `reqrep_send_locked`, the slot before the arena words. -/
def reqrepSendWrites (s : Shm) (m : Mem) (r : Request) (utf8 : Bool) (off skip base : Nat)
    (reset : List Write) : List Write :=
  let idx := ringIndex s (m.u64 .hdrReqTail)
  reset ++ copyWrites .arena off r.data ++
    [.w32 (.reqSlotArenaOff idx) (UInt32.ofNat off),
     .w32 (.reqSlotPackedLen idx) (packLen (UInt32.ofNat r.data.length) utf8),
     .w32 (.reqSlotArenaSkip idx) (UInt32.ofNat skip),
     .w32 (.reqSlotRespSlot idx) r.respSlot,
     .w32 (.reqSlotRespGen idx) r.respGen,
     .w32 .hdrArenaWpos (UInt32.ofNat (off + allocate r.data.length)),
     .w32 .hdrArenaUsed (UInt32.ofNat (base + skip)),
     .w64 .hdrReqTail (m.u64 .hdrReqTail + 1),
     .w64 .hdrStatRequests (m.u64 .hdrStatRequests + 1)]

/-- The stores of the reset, if there was one. -/
def Resets (reset : List Write) : Prop :=
  reset = [] ∨ reset = [.w32 .hdrArenaWpos 0, .w32 .hdrArenaUsed 0]

theorem Placed.resets {data : List UInt8} {off skip base : Nat} {reset : List Write}
    (placed : Placed s m data off skip base reset) : Resets reset :=
  placed.reset_eq.imp And.left And.left

/-- The words of a reset are stored over. -/
private theorem sendWrites_reset {reset : List Write} (resets : Resets reset) (s : Shm) (m : Mem)
    (r : Request) (off skip base : Nat) :
    m.writeAll (sendWrites s m r off skip base reset) =
      m.writeAll (sendWrites s m r off skip base []) := by
  rcases resets with rfl | rfl
  · rfl
  have bytes : (((m.set32 .hdrArenaWpos 0).set32 .hdrArenaUsed 0).writeAll
      (copyWrites .arena off r.data)).u8 = (m.writeAll (copyWrites .arena off r.data)).u8 := by
    apply Mem.writeAll_u8_congr
    rfl
  refine Mem.ext (funext fun l => ?_) (funext fun l => ?_) ?_
  · cases l <;> simp [sendWrites, arenaWrites, fieldWrites, Mem.writeAll_append]
  · cases l <;> simp [sendWrites, arenaWrites, fieldWrites, Mem.writeAll_append]
  · simp [sendWrites, arenaWrites, fieldWrites, Mem.writeAll_append, bytes]

/-- The order of the stores makes no difference to what they leave. -/
theorem reqrepSendWrites_mem (s : Shm) (m : Mem) (r : Request) (utf8 : Bool) (off skip base : Nat)
    (reset : List Write) :
    m.writeAll (reqrepSendWrites s m r utf8 off skip base reset) =
      (m.writeAll (sendWrites s m r off skip base reset)).flag
        (ringIndex s (m.u64 .hdrReqTail)) utf8 := by
  simp only [reqrepSendWrites, sendWrites, arenaWrites, fieldWrites, Mem.writeAll_append]
  generalize (m.writeAll reset).writeAll (copyWrites .arena off r.data) = m₁
  refine Mem.ext (funext fun l => ?_) ?_ rfl
  · cases l <;> simp [Mem.flag]
    split_ifs <;> rfl
  · rfl

/-- The copy, the slot and the counters that end a `reqrep_send_locked`. -/
private theorem reqrepCommit_run (short : Short r.data) (utf8 : Bool) (off : UInt32)
    (skip : UInt64) (reset : List Write) (w : World)
    (counters : (w.mem.writeAll reset).u64 = w.mem.u64) :
    ((copyIn .arena off.toNat (r.data.take (UInt32.ofNat r.data.length).toNat)
        (w.extend reset)).bind fun a =>
      let idx := (a.2.mem.u64 .hdrReqTail &&& s.reqCapMask.toUInt64).toUInt32.toUInt64
      (store32 (.reqSlotArenaOff idx) off a.2).bind fun a =>
      (store32 (.reqSlotPackedLen idx)
        (packLen (UInt32.ofNat r.data.length) utf8) a.2).bind fun a =>
      (store32 (.reqSlotArenaSkip idx) skip.toUInt32 a.2).bind fun a =>
      (store32 (.reqSlotRespSlot idx) r.respSlot a.2).bind fun a =>
      (store32 (.reqSlotRespGen idx) r.respGen a.2).bind fun a =>
      (store32 .hdrArenaWpos (off + arenaAlloc (UInt32.ofNat r.data.length)) a.2).bind fun a =>
      (add32 .hdrArenaUsed skip.toUInt32 a.2).bind fun a =>
      (add64 .hdrReqTail 1 a.2).bind fun a =>
      (add64 .hdrStatRequests 1 a.2).bind fun a => some ((1 : Int), a.2)) =
    some (1, w.extend (reqrepSendWrites s w.mem r utf8 off.toNat skip.toNat
      ((w.mem.writeAll reset).u32 .hdrArenaUsed).toNat reset)) := by
  have halloc := arenaAlloc_toNat short
  have wposEq : off + arenaAlloc (UInt32.ofNat r.data.length) =
      UInt32.ofNat (off.toNat + allocate r.data.length) := by
    apply UInt32.toNat_inj.mp
    rw [UInt32.toNat_add, halloc, UInt32.toNat_ofNat']
  have usedEq : (w.mem.writeAll reset).u32 .hdrArenaUsed + skip.toUInt32 =
      UInt32.ofNat (((w.mem.writeAll reset).u32 .hdrArenaUsed).toNat + skip.toNat) := by
    apply UInt32.toNat_inj.mp
    rw [UInt32.toNat_add, UInt64.toNat_toUInt32, UInt32.toNat_ofNat', Nat.add_mod_mod]
  have skipEq : skip.toUInt32 = UInt32.ofNat skip.toNat := by
    apply UInt32.toNat_inj.mp
    rw [UInt64.toNat_toUInt32, UInt32.toNat_ofNat']
  rw [length_toNat short, List.take_length]
  simp only [Option.bind_some, copyIn_apply, store32_apply, add32_apply, add64_apply,
    World.extend_extend, World.extend_mem, Mem.writeAll_append, Mem.writeAll_cons, Mem.writeAll_nil,
    Mem.write_w32, Mem.write_w64, Mem.set32_u32, Mem.set32_u64, Mem.set64_u64,
    writeAll_copyWrites_u32, writeAll_copyWrites_u64, counters, reduceCtorEq, if_false,
    wposEq, usedEq, ringIndex_toUInt32]
  rw [skipEq, reqrepSendWrites, UInt32.ofNat_toNat]
  simp only [List.append_assoc, List.cons_append, List.nil_append]

/-- What the C function computes before its fullness check: the offset, and the
charge unless the write position is past the capacity. -/
private theorem reqrepCharge_toNat {wpos alloc cap : UInt32} (wraps : Prop) [Decidable wraps] :
    (if wraps then (0 : UInt32) else wpos).toNat = (if wraps then 0 else wpos.toNat) ∧
    (wpos.toNat ≤ cap.toNat →
      (if wraps then alloc.toUInt64 + (cap - wpos).toUInt64 else alloc.toUInt64).toNat =
        if wraps then alloc.toNat + cap.toNat - wpos.toNat else alloc.toNat) ∧
    (if wraps then alloc.toUInt64 + (cap - wpos).toUInt64 else alloc.toUInt64).toNat < 2 ^ 33 := by
  have := alloc.toNat_lt
  have := cap.toNat_lt
  have := (cap - wpos).toNat_lt
  have sum : (alloc.toUInt64 + (cap - wpos).toUInt64).toNat =
      alloc.toNat + (cap - wpos).toNat := by
    rw [UInt64.toNat_add, UInt32.toNat_toUInt64, UInt32.toNat_toUInt64]
    exact Nat.mod_eq_of_lt (by omega)
  by_cases h : wraps
  · rw [if_pos h, if_pos h, if_pos h, if_pos h, sum]
    refine ⟨rfl, fun le => ?_, by omega⟩
    rw [UInt32.toNat_sub_of_le _ _ (UInt32.le_iff_toNat_le.mpr le)]
    omega
  · rw [if_neg h, if_neg h, if_neg h, if_neg h, UInt32.toNat_toUInt64]
    exact ⟨rfl, fun _ => rfl, by omega⟩

/-- The C function computes the placement of the Go one: only past the capacity
do the two charges differ, and there the one queued request makes both refuse. -/
theorem reqrepSendLocked_run {w : World} (accounted : Accounted s w.mem)
    (short : Short r.data) (room : r.data.length ≤ s.reqArenaCap.toNat) (utf8 : Bool)
    {sent : Bool} {ws : List Write} (outcome : Sent s w.mem r sent ws) :
    ∃ ws', reqrepSendLocked s r.data utf8 r.respSlot r.respGen w =
        some (if sent then 1 else 0, w.extend ws') ∧
      w.mem.writeAll ws' = if sent then
        (w.mem.writeAll ws).flag (ringIndex s (w.mem.u64 .hdrReqTail)) utf8
      else w.mem.writeAll ws := by
  have hlen := length_toNat short
  have halloc := arenaAlloc_toNat short
  have notLong : ¬ UInt32.ofNat r.data.length > layoutStrLenMask := by
    rw [gt_iff_lt, UInt32.lt_iff_toNat_lt, hlen]
    exact Nat.not_lt.mpr short
  unfold reqrepSendLocked
  dsimp only
  simp only [notLong, if_false, ite_apply', bind_apply, pure_apply, load32_apply, load64_apply,
    Option.bind_some]
  by_cases full : w.mem.u64 .hdrReqTail - w.mem.u64 .hdrReqHead ≥ s.reqCap.toUInt64
  · rw [if_pos full, add64_apply]
    cases outcome with
    | queueFull => exact ⟨_, rfl, rfl⟩
    | refused space => exact absurd full (UInt64.not_le.mpr space)
    | sent space => exact absurd full (UInt64.not_le.mpr space)
  rw [if_neg full]
  simp only [wraps_iff, halloc]
  obtain ⟨posEq, skipEq, skipLt⟩ := @reqrepCharge_toNat (w.mem.u32 .hdrArenaWpos)
    (arenaAlloc (UInt32.ofNat r.data.length)) s.reqArenaCap
    (s.reqArenaCap.toNat < (w.mem.u32 .hdrArenaWpos).toNat + allocate r.data.length) _
  rw [halloc] at skipEq
  generalize (if s.reqArenaCap.toNat < (w.mem.u32 .hdrArenaWpos).toNat + allocate r.data.length
    then 0 else w.mem.u32 .hdrArenaWpos) = pos at posEq ⊢
  generalize (if s.reqArenaCap.toNat < (w.mem.u32 .hdrArenaWpos).toNat + allocate r.data.length
    then (arenaAlloc (UInt32.ofNat r.data.length)).toUInt64 +
      (s.reqArenaCap - w.mem.u32 .hdrArenaWpos).toUInt64
    else (arenaAlloc (UInt32.ofNat r.data.length)).toUInt64) = skip at skipEq skipLt ⊢
  have overfull : (w.mem.u32 .hdrArenaUsed).toUInt64 + skip > s.reqArenaCap.toUInt64 ↔
      s.reqArenaCap.toNat < (w.mem.u32 .hdrArenaUsed).toNat + skip.toNat := by
    have := (w.mem.u32 .hdrArenaUsed).toNat_lt
    rw [gt_iff_lt, UInt64.lt_iff_toNat_lt, UInt64.toNat_add]
    simp only [UInt32.toNat_toUInt64]
    rw [Nat.mod_eq_of_lt (by omega)]
  simp only [overfull]
  -- the placement, whichever language computes it
  generalize hcharge : (if s.reqArenaCap.toNat < (w.mem.u32 .hdrArenaWpos).toNat +
      allocate r.data.length then
    allocate r.data.length + s.reqArenaCap.toNat - (w.mem.u32 .hdrArenaWpos).toNat
    else allocate r.data.length) = charge at skipEq
  have placeEq : ∀ empty, CircularBuffer.place s.reqArenaCap.toNat
      (w.mem.u32 .hdrArenaWpos).toNat (w.mem.u32 .hdrArenaUsed).toNat
      (allocate r.data.length) empty =
      if (w.mem.u32 .hdrArenaUsed).toNat + charge ≤ s.reqArenaCap.toNat then
        some (pos.toNat, charge, (w.mem.u32 .hdrArenaUsed).toNat)
      else if empty then some (0, allocate r.data.length, 0) else none := by
    intro empty
    rw [posEq, ← hcharge]
    rfl
  have same : s.reqArenaCap.toNat < (w.mem.u32 .hdrArenaUsed).toNat + charge ∧
      s.reqArenaCap.toNat < (w.mem.u32 .hdrArenaUsed).toNat + skip.toNat ∨
      skip.toNat = charge := by
    by_cases le : (w.mem.u32 .hdrArenaWpos).toNat ≤ s.reqArenaCap.toNat
    · exact .inr (skipEq le)
    · have usedEq := (accounted.beyond (Nat.not_le.mp le)).2
      rw [usedEq]
      exact .inl (by omega)
  cases outcome with
  | queueFull queueFull => exact absurd queueFull full
  | refused space refused =>
    cases refused with
    | tooLong long => exact absurd room (Nat.not_le.mpr long)
    | full room refused =>
      rw [placeEq] at refused
      split_ifs at refused with roomy empty
      rw [if_pos (by omega), if_neg (by simpa using empty), add64_apply]
      exact ⟨_, rfl, rfl⟩
  | @sent off charged base reset space placed =>
    have place := placed.placed
    rw [placeEq] at place
    split_ifs at place with roomy empty
    · obtain ⟨rfl, rfl, rfl⟩ : pos.toNat = off ∧ charge = charged ∧
          (w.mem.u32 .hdrArenaUsed).toNat = base := by simpa using place
      rw [if_neg (by omega)]
      have run := @reqrepCommit_run s r short utf8 pos skip [] w rfl
      rw [World.extend_nil] at run
      refine ⟨_, run, ?_⟩
      rw [reqrepSendWrites_mem, if_pos rfl, sendWrites_reset placed.resets]
      have skipEq : skip.toNat = charge := by omega
      rw [skipEq]
      rfl
    · obtain ⟨rfl, rfl, rfl⟩ : 0 = off ∧ allocate r.data.length = charged ∧ 0 = base := by
        simpa using place
      rw [if_pos (by omega), if_pos (by simpa using empty)]
      have run := @reqrepCommit_run s r short utf8 0
        (arenaAlloc (UInt32.ofNat r.data.length)).toUInt64
        [.w32 .hdrArenaWpos 0, .w32 .hdrArenaUsed 0] w rfl
      have extended : w.extend [.w32 .hdrArenaWpos 0, .w32 .hdrArenaUsed 0] =
          (w.extend [.w32 .hdrArenaWpos 0]).extend [.w32 .hdrArenaUsed 0] := by
        rw [World.extend_extend, List.singleton_append]
      rw [extended] at run
      rw [store32_apply, Option.bind_some, store32_apply, Option.bind_some]
      refine ⟨_, run, ?_⟩
      rw [reqrepSendWrites_mem, if_pos rfl, sendWrites_reset placed.resets,
        sendWrites_reset (.inr rfl), UInt32.toNat_toUInt64, halloc]
      rfl

theorem Mem.flag_u32_of_ne {idx : UInt64} {l : Loc32} (other : l ≠ .reqSlotPackedLen idx)
    (m : Mem) (utf8 : Bool) : (m.flag idx utf8).u32 l = m.u32 l := by
  rw [Mem.flag, Mem.set32_u32, if_neg other]

/-- The accounts read no encoding. -/
theorem Accounted.flag (accounted : Accounted s m) (idx : UInt64) (utf8 : Bool) :
    Accounted s (m.flag idx utf8) := by
  have skip : slotSkip s (m.flag idx utf8) = slotSkip s m :=
    funext fun k => congrArg UInt32.toNat (Mem.flag_u32_of_ne (by simp) m utf8)
  have used : (m.flag idx utf8).u32 .hdrArenaUsed = m.u32 .hdrArenaUsed :=
    Mem.flag_u32_of_ne (by simp) m utf8
  have wpos : (m.flag idx utf8).u32 .hdrArenaWpos = m.u32 .hdrArenaWpos :=
    Mem.flag_u32_of_ne (by simp) m utf8
  have fits : ∀ i, SlotFits s (m.flag idx utf8) i ↔ SlotFits s m i := by
    intro i
    have len : (m.flag idx utf8).u32 (.reqSlotPackedLen i) &&& layoutStrLenMask =
        m.u32 (.reqSlotPackedLen i) &&& layoutStrLenMask := by
      rw [Mem.flag, Mem.set32_u32]
      split
      · next same => rw [packLen_mask, ← same]
      · rfl
    rw [SlotFits, SlotFits, len, Mem.flag_u32_of_ne (by simp)]
  constructor
  · exact accounted.bounded
  · rw [wpos]
    exact accounted.wpos
  · rw [used, accounted.used, charged, charged, skip]
    rfl
  · rw [wpos]
    exact accounted.idle
  · rw [wpos, used]
    exact accounted.beyond
  · intro k bound
    rw [fits]
    exact accounted.fits k bound
  · intro k bound
    rw [skip]
    exact accounted.charges k bound

/-! ## Receiving -/

theorem reqrepRecvLocked_empty (ensureCopyBuf : UInt32 → Bool) (w : World)
    (empty : w.mem.u64 .hdrReqTail = w.mem.u64 .hdrReqHead) :
    reqrepRecvLocked s ensureCopyBuf w = some (.empty,
      w.extend [.w32 .hdrStatRecvEmpty (w.mem.u32 .hdrStatRecvEmpty + 1)]) := by
  unfold reqrepRecvLocked
  simp [empty]

/-- The encoding in the queue slot at a ring index. -/
def slotUtf8 (m : Mem) (idx : UInt64) : Bool :=
  decide (m.u32 (.reqSlotPackedLen idx) &&& reqrepUtf8Flag ≠ 0)

/-- The C function returns the bytes and the id of the slot, and makes the stores
of the Go one. -/
theorem reqrepRecvLocked_slot {ensureCopyBuf : UInt32 → Bool}
    (allocates : ∀ needed, ensureCopyBuf needed) {w : World}
    (nonempty : w.mem.u64 .hdrReqTail ≠ w.mem.u64 .hdrReqHead) :
    reqrepRecvLocked s ensureCopyBuf w =
      some (.ok (slotBytes w.mem (ringIndex s (w.mem.u64 .hdrReqHead)))
        (slotUtf8 w.mem (ringIndex s (w.mem.u64 .hdrReqHead)))
        (slotId w.mem (ringIndex s (w.mem.u64 .hdrReqHead))), w.extend (recvWrites s w.mem)) := by
  unfold reqrepRecvLocked slotBytes slotUtf8 slotId recvWrites releaseWrites
  simp only [bind_apply, load64_apply, load32_apply, Option.bind_some, ite_apply', if_neg nonempty,
    ringIndex_toUInt32, allocates, Bool.not_true, Bool.false_eq_true, if_false, copyOut_apply,
    store32_apply, add64_apply, pure_apply, World.extend_mem]
  generalize ringIndex s (w.mem.u64 .hdrReqHead) = idx
  by_cases enough : w.mem.u32 .hdrArenaUsed ≥ w.mem.u32 (.reqSlotArenaSkip idx)
  · simp only [if_pos enough, World.extend_extend, Mem.writeAll_cons, Mem.writeAll_nil,
      Mem.write_w32, Mem.set32_u32, Mem.set32_u64, if_true]
    split <;> simp
  · simp only [if_neg enough, World.extend_extend, Mem.writeAll_cons, Mem.writeAll_nil,
      Mem.write_w32, Mem.set32_u32, Mem.set32_u64, if_true]
    simp

/-! ## Mixed runs -/

/-- A call of either language, made under the arena mutex. -/
inductive MixedCall where
  | sendLocked (r : Request)
  | recvLocked
  | reqrepSendLocked (r : Request) (utf8 : Bool)
  | reqrepRecvLocked
  deriving DecidableEq, Repr

/-- A request within the length limits, whose slot comes from an acquisition. -/
structure Request.Fits (s : Shm) (r : Request) : Prop where
  short : Short r.data
  room : r.data.length ≤ s.reqArenaCap.toNat
  slot : r.respSlot < s.respSlots

instance Request.decidableFits (s : Shm) (r : Request) : Decidable (r.Fits s) :=
  decidable_of_iff (Short r.data ∧ r.data.length ≤ s.reqArenaCap.toNat ∧ r.respSlot < s.respSlots)
    ⟨fun h => ⟨h.1, h.2.1, h.2.2⟩, fun h => ⟨h.1, h.2, h.3⟩⟩

/-- What is sent fits. -/
def MixedCall.Ok (s : Shm) : MixedCall → Prop
  | .sendLocked r | .reqrepSendLocked r _ => r.Fits s
  | .recvLocked | .reqrepRecvLocked => True

instance MixedCall.decidableOk (s : Shm) (c : MixedCall) : Decidable (c.Ok s) := by
  cases c <;> unfold MixedCall.Ok <;> infer_instance

/-- The memory after one call. -/
def mixedStep (s : Shm) (ensureCopyBuf : UInt32 → Bool) (m : Mem) : MixedCall → Option Mem
  | .sendLocked r =>
    ((sendLocked s r.data r.respSlot r.respGen).run m).map fun result => result.2.mem
  | .recvLocked => ((recvLocked s).run m).map fun result => result.2.mem
  | .reqrepSendLocked r utf8 =>
    ((reqrepSendLocked s r.data utf8 r.respSlot r.respGen).run m).map fun result => result.2.mem
  | .reqrepRecvLocked => ((reqrepRecvLocked s ensureCopyBuf).run m).map fun result => result.2.mem

/-- The two receives return the same data and id, or both report empty. -/
inductive SameDelivery : Option Delivery → RecvResult → Prop where
  | empty : SameDelivery none .empty
  | ok (str : List UInt8) (utf8 : Bool) (id : UInt64) :
      SameDelivery (some (str, id)) (.ok str utf8 id)

/-- `sendLocked` and `reqrep_send_locked` give the same verdict on `r` and leave
the same memory. -/
def SendsAlike (s : Shm) (m : Mem) (r : Request) : Prop :=
  ∃ sent w w', (sendLocked s r.data r.respSlot r.respGen).run m = some (sent, w) ∧
    (reqrepSendLocked s r.data false r.respSlot r.respGen).run m =
      some (if sent then 1 else 0, w') ∧ w'.mem = w.mem

/-- `recvLocked` and `reqrep_recv_locked` return the same and leave the same memory. -/
def RecvsAlike (s : Shm) (ensureCopyBuf : UInt32 → Bool) (m : Mem) : Prop :=
  ∃ got result w w', (recvLocked s).run m = some (got, w) ∧
    (reqrepRecvLocked s ensureCopyBuf).run m = some (result, w') ∧
    SameDelivery got result ∧ w'.mem = w.mem

variable {ensureCopyBuf : UInt32 → Bool}

/-- What the account of the queue says is what makes the two sends alike. -/
theorem Accounted.sendsAlike (accounted : Accounted s m) (fits : r.Fits s) :
    SendsAlike s m r := by
  obtain ⟨sent, ws, run, outcome⟩ :=
    sendLocked_run fits.short fits.slot ⟨m, []⟩ accounted.wpos
  obtain ⟨ws', run', same⟩ := reqrepSendLocked_run (w := ⟨m, []⟩) accounted fits.short fits.room
    false outcome
  refine ⟨sent, _, _, run, run', same.trans ?_⟩
  rw [Mem.flag_false, ite_self]
  rfl

/-- What the account of the queue says is what makes the two receives alike. -/
theorem Accounted.recvsAlike (accounted : Accounted s m)
    (allocates : ∀ needed, ensureCopyBuf needed) : RecvsAlike s ensureCopyBuf m := by
  by_cases empty : m.u64 .hdrReqTail = m.u64 .hdrReqHead
  · exact ⟨_, _, _, _, recvLocked_empty s ⟨m, []⟩ empty,
      reqrepRecvLocked_empty ensureCopyBuf ⟨m, []⟩ empty, .empty, rfl⟩
  · have fits := accounted.fits 0 (Nat.pos_of_ne_zero fun none => empty (queued_eq_zero.mp none))
    rw [queueIndex_zero] at fits
    exact ⟨_, _, _, _, recvLocked_slot (w := ⟨m, []⟩) empty fits,
      reqrepRecvLocked_slot (w := ⟨m, []⟩) allocates empty, .ok _ _ _, rfl⟩

/-- A call of either language runs to its end and keeps the accounts. -/
theorem Accounted.step (ok : s.QueueOk) (allocates : ∀ needed, ensureCopyBuf needed)
    (accounted : Accounted s m) {c : MixedCall} (valid : c.Ok s) :
    ∃ m', mixedStep s ensureCopyBuf m c = some m' ∧ Accounted s m' := by
  have recvKeeps : ∃ m', ((recvLocked s).run m).map (fun result => result.2.mem) = some m' ∧
      Accounted s m' := by
    by_cases empty : m.u64 .hdrReqTail = m.u64 .hdrReqHead
    · refine ⟨_, by rw [Exec.run, recvLocked_empty s ⟨m, []⟩ empty]; rfl, ?_⟩
      refine accounted.congr (fun l word => ?_) rfl rfl
      apply Mem.writeAll_u32_of_not_mem
      rintro v member
      cases List.mem_singleton.mp member
      rcases word with same | same | ⟨idx, field⟩
      · cases same
      · cases same
      · exact field
    · have fits := accounted.fits 0 (Nat.pos_of_ne_zero fun none => empty (queued_eq_zero.mp none))
      rw [queueIndex_zero] at fits
      refine ⟨_, by rw [Exec.run, recvLocked_slot (w := ⟨m, []⟩) empty fits]; rfl, ?_⟩
      exact accounted.recv empty
  cases c with
  | sendLocked r =>
    obtain ⟨sent, ws, run, outcome⟩ :=
      sendLocked_run valid.short valid.slot ⟨m, []⟩ accounted.wpos
    exact ⟨_, by rw [mixedStep, Exec.run, run]; rfl, accounted.send ok valid.short outcome⟩
  | recvLocked => exact recvKeeps
  | reqrepSendLocked r utf8 =>
    obtain ⟨sent, ws, run, outcome⟩ :=
      sendLocked_run valid.short valid.slot ⟨m, []⟩ accounted.wpos
    obtain ⟨ws', run', same⟩ := reqrepSendLocked_run (w := ⟨m, []⟩) accounted valid.short
      valid.room utf8 outcome
    refine ⟨_, by rw [mixedStep, Exec.run, run']; rfl, ?_⟩
    have kept := accounted.send ok valid.short outcome
    change Accounted s (m.writeAll ws')
    rw [same]
    split
    · exact kept.flag _ utf8
    · exact kept
  | reqrepRecvLocked =>
    obtain ⟨got, result, w, w', run, run', -, same⟩ := accounted.recvsAlike allocates
    obtain ⟨m', after, kept⟩ := recvKeeps
    rw [run] at after
    refine ⟨m', ?_, kept⟩
    rw [mixedStep, run', Option.map_some, same]
    exact after

/-- Any calls of the two languages, in any order. -/
theorem mixed_runs (ok : s.QueueOk) (allocates : ∀ needed, ensureCopyBuf needed)
    {calls : List MixedCall} (valid : ∀ c ∈ calls, c.Ok s) (accounted : Accounted s m) :
    ∃ m', Runs.run (mixedStep s ensureCopyBuf) m calls = some m' ∧ Accounted s m' := by
  induction calls generalizing m with
  | nil => exact ⟨m, rfl, accounted⟩
  | cons c calls ih =>
    obtain ⟨m₁, first, kept⟩ := accounted.step ok allocates (valid c List.mem_cons_self)
    obtain ⟨m', rest, after⟩ := ih (fun c member => valid c (List.mem_cons_of_mem _ member)) kept
    exact ⟨m', by rw [Runs.run, first]; exact rest, after⟩

/-- The queue of the Go library is interchangeable with the one it ports. From a
fresh queue, every mix of calls of the two runs to its end, and on the memory it
leaves both do the same next, with every request and in receiving. -/
theorem queue_interchangeable (ok : s.QueueOk) (fresh : FreshQueue m)
    (allocates : ∀ needed, ensureCopyBuf needed) {calls : List MixedCall}
    (valid : ∀ c ∈ calls, c.Ok s) :
    ∃ m', Runs.run (mixedStep s ensureCopyBuf) m calls = some m' ∧
      (∀ r, r.Fits s → SendsAlike s m' r) ∧ RecvsAlike s ensureCopyBuf m' := by
  have accounted : Accounted s m := FreshQueue.accounted fresh.counters fresh.wpos fresh.used
  obtain ⟨m', ran, accounted⟩ := mixed_runs ok allocates valid accounted
  exact ⟨m', ran, fun r fits => accounted.sendsAlike fits, accounted.recvsAlike allocates⟩

/-- A request of each language in an arena whose size is no multiple of 8. -/
theorem queue_interchangeable_tiny :
    ∃ m', Runs.run (mixedStep tinyShm fun _ => true) (freshMem (0 - 1))
        [.sendLocked ⟨[1], 0, 1⟩, .reqrepSendLocked ⟨[2], 0, 1⟩ true, .reqrepRecvLocked] =
        some m' ∧
      (∀ r : Request, r.Fits tinyShm → SendsAlike tinyShm m' r) ∧
        RecvsAlike tinyShm (fun _ => true) m' :=
  queue_interchangeable (by decide) (freshMem_fresh _) (fun _ => rfl) (by decide)

end ReqRep
