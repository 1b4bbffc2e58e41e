import ReqRep.Shm.Exec

/-!
# The request queue under the arena mutex

`reqrep_arena.go` and the `…Locked` half of `reqrep_queue.go`. These functions
run with the mutex held, so nothing interferes with them; they can still be cut
short by the death of the process. The functions of `reqrep_mutex.go` are here
as they run without contention.
-/

namespace ReqRep

open Exec

/-! ## The mutex -/

/-- The mutex word of a holder: `layoutMutexWriterBit | (pid & layoutMutexPidMask)`. -/
def mutexWord (pid : UInt32) : UInt32 := layoutMutexWriterBit ||| (pid &&& layoutMutexPidMask)

/-- `mutexLock` on a free mutex. A held one is never freed by a function that
runs alone, so there is no result then. -/
def mutexLock (mypid : UInt32) : Exec Unit := do
  if ← cas32 .hdrMutex 0 (mutexWord mypid) then return else panic

/-- `mutexUnlock`. -/
def mutexUnlock : Exec Unit := store32 .hdrMutex 0

/-- `recoverStaleMutex`. The `futexWake` that may follow stores nothing. -/
def recoverStaleMutex (observed : UInt32) : Exec Unit := do
  if ← cas32 .hdrMutex observed 0 then
    let _ ← add32 .hdrStatRecoveries 1

/-! ## The arena -/

/-- The slice expression `arena[lo:hi]` over `unsafe.Slice(arena, reqArenaCap)`:
out of range it panics. -/
def arenaSlice (s : Shm) (lo hi : UInt32) : Exec Unit :=
  if lo ≤ hi ∧ hi ≤ s.reqArenaCap then return else panic

/-- The allocation for `length` bytes: rounded up to 8-byte alignment, at least 8. -/
def arenaAlloc (length : UInt32) : UInt32 :=
  let alloc := (length + 7) &&& ~~~7
  if alloc = 0 then 8 else alloc

/-- `writeArenaLocked`: `(arenaOff, arenaSkip)`, or `none` where it returns
`ok == false`. -/
def writeArenaLocked (s : Shm) (data : List UInt8) : Exec (Option (UInt32 × UInt32)) := do
  let length := UInt32.ofNat data.length
  if length > s.reqArenaCap then
    return none
  let alloc := arenaAlloc length
  let wpos ← load32 .hdrArenaWpos
  let wraps := wpos.toUInt64 + alloc.toUInt64 > s.reqArenaCap.toUInt64
  let skip := if wraps then
      alloc.toUInt64 + (s.reqArenaCap.toUInt64 - wpos.toUInt64)
    else alloc.toUInt64
  let wpos := if wraps then 0 else wpos
  let arenaUsed ← load32 .hdrArenaUsed
  let (wpos, skip) ←
    if arenaUsed.toUInt64 + skip > s.reqArenaCap.toUInt64 then do
      let head ← load64 .hdrReqHead
      let tail ← load64 .hdrReqTail
      if tail = head then
        store32 .hdrArenaWpos 0
        store32 .hdrArenaUsed 0
        pure (0, alloc.toUInt64)
      else
        let _ ← add64 .hdrStatSendFull 1
        return none
    else pure (wpos, skip)
  arenaSlice s wpos (wpos + length)
  copyIn .arena wpos.toNat (data.take length.toNat)
  store32 .hdrArenaWpos (wpos + alloc)
  let _ ← add32 .hdrArenaUsed skip.toUInt32
  return some (wpos, skip.toUInt32)

/-- `readArena`, together with the copy `recvLocked` makes of it. -/
def readArena (s : Shm) (off length : UInt32) : Exec (List UInt8) := do
  arenaSlice s off (off + length)
  copyOut .arena off.toNat length.toNat

/-- `releaseArenaLocked`. -/
def releaseArenaLocked (skip : UInt32) : Exec Unit := do
  let used ← load32 .hdrArenaUsed
  let used := if used ≥ skip then used - skip else 0
  store32 .hdrArenaUsed used
  if used = 0 then
    store32 .hdrArenaWpos 0

/-! ## The queue -/

/-- `sendLocked`: true where the request has been queued. -/
def sendLocked (s : Shm) (data : List UInt8) (respSlotIdx respGen : UInt32) : Exec Bool := do
  if respSlotIdx ≥ s.respSlots then
    panic
  let head ← load64 .hdrReqHead
  let tail ← load64 .hdrReqTail
  if tail - head ≥ s.reqCap.toUInt64 then
    let _ ← add64 .hdrStatSendFull 1
    return false
  let some (arenaOff, arenaSkip) ← writeArenaLocked s data | return false
  let idx := tail &&& s.reqCapMask.toUInt64
  store32 (.reqSlotArenaOff idx) arenaOff
  store32 (.reqSlotPackedLen idx) (UInt32.ofNat data.length)
  store32 (.reqSlotArenaSkip idx) arenaSkip
  store32 (.reqSlotRespSlot idx) respSlotIdx
  store32 (.reqSlotRespGen idx) respGen
  let _ ← add64 .hdrReqTail 1
  let _ ← add64 .hdrStatRequests 1
  return true

/-- `recvLocked`: the data and the id, or `none` where it returns
`ok == false`. -/
def recvLocked (s : Shm) : Exec (Option (List UInt8 × UInt64)) := do
  let head ← load64 .hdrReqHead
  let tail ← load64 .hdrReqTail
  if tail = head then
    let _ ← add32 .hdrStatRecvEmpty 1
    return none
  let idx := head &&& s.reqCapMask.toUInt64
  let arenaOff ← load32 (.reqSlotArenaOff idx)
  let packedLen ← load32 (.reqSlotPackedLen idx)
  let arenaSkip ← load32 (.reqSlotArenaSkip idx)
  let respSlot ← load32 (.reqSlotRespSlot idx)
  let respGen ← load32 (.reqSlotRespGen idx)
  let length := packedLen &&& layoutStrLenMask
  let data ← readArena s arenaOff length
  releaseArenaLocked arenaSkip
  let id := packId respGen respSlot
  let _ ← add64 .hdrReqHead 1
  return some (data, id)

end ReqRep
