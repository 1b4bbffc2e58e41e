import Mathlib

/-!
# The shared mapping

The mapping of `reqrep_layout.go`: every accessor of a header, request-slot or
response-slot field is a location, and the memory gives each location its word
or byte. Locations of different fields, and of different slots, are different
by construction; the offsets that make this true of a file are not part of
this module.
-/

namespace ReqRep

/-! ## Constants of `reqrep_layout_gen.go` -/

/-- The states of a response slot. -/
def layoutRespFree : UInt32 := 0
def layoutRespAcquired : UInt32 := 1
def layoutRespReady : UInt32 := 2
/-- The length bits of a packed length; bit 31 is the UTF-8 flag of the C library. -/
def layoutStrLenMask : UInt32 := 0x7FFFFFFF
/-- The mutex word is 0, or this bit with the pid of the holder. -/
def layoutMutexWriterBit : UInt32 := 0x80000000
def layoutMutexPidMask : UInt32 := 0x7FFFFFFF
/-- The rounds of the spin loops. -/
def layoutSpinLimit : Nat := 32

/-- The values of `type shm struct` that the operations read: they are cached
once from the header and never change. -/
structure Shm where
  reqCap : UInt32
  reqArenaCap : UInt32
  respSlots : UInt32
  respDataMax : UInt32
  deriving DecidableEq, Repr

/-- `reqCapMask: *hdrReqCap(base) - 1` of `setupShm`. -/
def Shm.reqCapMask (s : Shm) : UInt32 := s.reqCap - 1

/-! ## Locations -/

/-- The 32-bit words of the mapping, under the names of their accessors. -/
inductive Loc32 where
  | hdrMutex
  | hdrMutexWaiters
  | hdrArenaWpos
  | hdrArenaUsed
  | hdrRespHint
  | hdrStatRecoveries
  | hdrSlotFutex
  | hdrSlotWaiters
  | hdrRecvWaiters
  | hdrRecvFutex
  | hdrSendWaiters
  | hdrSendFutex
  | hdrStatRecvEmpty
  | reqSlotArenaOff (i : UInt64)
  | reqSlotPackedLen (i : UInt64)
  | reqSlotArenaSkip (i : UInt64)
  | reqSlotRespSlot (i : UInt64)
  | reqSlotRespGen (i : UInt64)
  | respSlotState (i : UInt32)
  | respSlotWaiters (i : UInt32)
  | respSlotOwnerPid (i : UInt32)
  | respSlotLen (i : UInt32)
  | respSlotFlags (i : UInt32)
  | respSlotGeneration (i : UInt32)
  deriving DecidableEq, Repr

/-- The 64-bit words of the mapping. -/
inductive Loc64 where
  | hdrReqHead
  | hdrReqTail
  | hdrStatRequests
  | hdrStatReplies
  | hdrStatSendFull
  deriving DecidableEq, Repr

/-- The bytes of the request arena and of the data area of a response slot. -/
inductive Loc8 where
  | arena (k : Nat)
  | respSlotData (i : UInt32) (k : Nat)
  deriving DecidableEq, Repr

/-- The contents of the mapping. -/
@[ext] structure Mem where
  u32 : Loc32 → UInt32
  u64 : Loc64 → UInt64
  u8 : Loc8 → UInt8

namespace Mem

/-- A store to a 32-bit word. -/
def set32 (m : Mem) (l : Loc32) (v : UInt32) : Mem :=
  { m with u32 := fun l' => if l' = l then v else m.u32 l' }

/-- A store to a 64-bit word. -/
def set64 (m : Mem) (l : Loc64) (v : UInt64) : Mem :=
  { m with u64 := fun l' => if l' = l then v else m.u64 l' }

/-- A store to a byte. -/
def set8 (m : Mem) (l : Loc8) (v : UInt8) : Mem :=
  { m with u8 := fun l' => if l' = l then v else m.u8 l' }

@[simp] theorem set32_u32 (m : Mem) (l l' : Loc32) (v : UInt32) :
    (m.set32 l v).u32 l' = if l' = l then v else m.u32 l' := rfl
@[simp] theorem set32_u64 (m : Mem) (l : Loc32) (v : UInt32) :
    (m.set32 l v).u64 = m.u64 := rfl
@[simp] theorem set32_u8 (m : Mem) (l : Loc32) (v : UInt32) :
    (m.set32 l v).u8 = m.u8 := rfl
@[simp] theorem set64_u32 (m : Mem) (l : Loc64) (v : UInt64) :
    (m.set64 l v).u32 = m.u32 := rfl
@[simp] theorem set64_u64 (m : Mem) (l l' : Loc64) (v : UInt64) :
    (m.set64 l v).u64 l' = if l' = l then v else m.u64 l' := rfl
@[simp] theorem set64_u8 (m : Mem) (l : Loc64) (v : UInt64) :
    (m.set64 l v).u8 = m.u8 := rfl
@[simp] theorem set8_u32 (m : Mem) (l : Loc8) (v : UInt8) :
    (m.set8 l v).u32 = m.u32 := rfl
@[simp] theorem set8_u64 (m : Mem) (l : Loc8) (v : UInt8) :
    (m.set8 l v).u64 = m.u64 := rfl
@[simp] theorem set8_u8 (m : Mem) (l l' : Loc8) (v : UInt8) :
    (m.set8 l v).u8 l' = if l' = l then v else m.u8 l' := rfl

end Mem

/-! ## Request ids -/

/-- `(uint64(gen) << 32) | uint64(slotIdx)`. -/
def packId (gen slot : UInt32) : UInt64 := (gen.toUInt64 <<< 32) ||| slot.toUInt64

/-- `uint32(id)`. -/
def idSlot (id : UInt64) : UInt32 := id.toUInt32

/-- `uint32(id >> 32)`. -/
def idGen (id : UInt64) : UInt32 := (id >>> 32).toUInt32

theorem packId_toNat (gen slot : UInt32) :
    (packId gen slot).toNat = gen.toNat * 2 ^ 32 + slot.toNat := by
  have hgen := gen.toNat_lt
  have hslot := slot.toNat_lt
  have shifted : (gen.toUInt64 <<< 32).toNat = gen.toNat <<< 32 := by
    rw [UInt64.toNat_shiftLeft]
    simp only [UInt32.toNat_toUInt64, UInt64.reduceToNat, Nat.reduceMod]
    rw [Nat.mod_eq_of_lt]
    rw [Nat.shiftLeft_eq]
    omega
  rw [packId, UInt64.toNat_or, shifted, UInt32.toNat_toUInt64,
    ← Nat.shiftLeft_add_eq_or_of_lt hslot, Nat.shiftLeft_eq]

theorem idSlot_toNat (id : UInt64) : (idSlot id).toNat = id.toNat % 2 ^ 32 := by
  simp [idSlot]

theorem idGen_toNat (id : UInt64) : (idGen id).toNat = id.toNat / 2 ^ 32 := by
  have bound := id.toNat_lt
  simp only [idGen, UInt64.toNat_toUInt32, UInt64.toNat_shiftRight, UInt64.reduceToNat,
    Nat.reduceMod, Nat.shiftRight_eq_div_pow]
  omega

@[simp] theorem idSlot_packId (gen slot : UInt32) : idSlot (packId gen slot) = slot := by
  apply UInt32.toNat_inj.mp
  rw [idSlot_toNat, packId_toNat]
  have := slot.toNat_lt
  omega

@[simp] theorem idGen_packId (gen slot : UInt32) : idGen (packId gen slot) = gen := by
  apply UInt32.toNat_inj.mp
  rw [idGen_toNat, packId_toNat]
  have := slot.toNat_lt
  omega

/-- An id is determined by its two halves. -/
theorem packId_idGen_idSlot (id : UInt64) : packId (idGen id) (idSlot id) = id := by
  apply UInt64.toNat_inj.mp
  rw [packId_toNat, idGen_toNat, idSlot_toNat]
  omega

/-- The failure sentinel `0` is only ever packed from generation 0. -/
theorem packId_ne_zero {gen : UInt32} (slot : UInt32) (nonzero : gen ≠ 0) :
    packId gen slot ≠ 0 := by
  intro zero
  apply nonzero
  rw [← idGen_packId gen slot, zero]
  rfl

end ReqRep
