import ReqRep.Queue.Locked

/-!
# The response slots, operation by operation

`reqrep_slots.go` and the response half of `reqrep.go`, each function run alone:
the whole operations that interleavings are later made of.
-/

namespace ReqRep

open Exec

/-- The public errors of `reqrep.go`. -/
inductive ReqRepError where
  | errTooLong
  | errRespTooLong
  | errStaleSlot
  deriving DecidableEq, Repr

/-! ## Wake helpers -/

/-- `wakeConsumers`. The `futexWake` that may follow stores nothing. -/
def wakeConsumers : Exec Unit := do
  let _ ← add32 .hdrRecvFutex 1

/-- `wakeSlotWaiters`. -/
def wakeSlotWaiters : Exec Unit := do
  let _ ← add32 .hdrSlotFutex 1

/-! ## Acquire and release -/

/-- What `acquireRespSlot` does after its CAS to ACQUIRED: the owner, and a
generation that is never 0. -/
def takeSlot (mypid slot : UInt32) : Exec UInt32 := do
  store32 (.respSlotOwnerPid slot) mypid
  let gen ← add32 (.respSlotGeneration slot) 1
  if gen = 0 then
    add32 (.respSlotGeneration slot) 1
  else
    return gen

/-- The first pass of `acquireRespSlot`, from iteration `i` on with `k` to go. -/
def acquireFree (s : Shm) (mypid hint : UInt32) : Nat → UInt32 → Exec (Option (UInt32 × UInt32))
  | 0, _ => return none
  | k + 1, i => do
    let slotIdx := (hint + i) % s.respSlots
    if ← cas32 (.respSlotState slotIdx) layoutRespFree layoutRespAcquired then
      let gen ← takeSlot mypid slotIdx
      store32 .hdrRespHint ((slotIdx + 1) % s.respSlots)
      return some (slotIdx, gen)
    else
      acquireFree s mypid hint k (i + 1)

/-- The second pass of `acquireRespSlot`: stale recovery. -/
def acquireStale (s : Shm) (mypid : UInt32) (pidAlive : UInt32 → Bool) :
    Nat → UInt32 → Exec (Option (UInt32 × UInt32))
  | 0, _ => return none
  | k + 1, i => do
    let state ← load32 (.respSlotState i)
    if state ≠ layoutRespAcquired ∧ state ≠ layoutRespReady then
      acquireStale s mypid pidAlive k (i + 1)
    else
      let pid ← load32 (.respSlotOwnerPid i)
      if pid = 0 ∨ pidAlive pid then
        acquireStale s mypid pidAlive k (i + 1)
      else
        store32 (.respSlotOwnerPid i) 0
        if ← cas32 (.respSlotState i) state layoutRespFree then
          let _ ← add32 .hdrStatRecoveries 1
          if ← cas32 (.respSlotState i) layoutRespFree layoutRespAcquired then
            let gen ← takeSlot mypid i
            return some (i, gen)
          else
            wakeSlotWaiters
            acquireStale s mypid pidAlive k (i + 1)
        else
          acquireStale s mypid pidAlive k (i + 1)

/-- `acquireRespSlot`: `(idx, gen)`, or `none` where it returns `ok == false`. -/
def acquireRespSlot (s : Shm) (mypid : UInt32) (pidAlive : UInt32 → Bool) :
    Exec (Option (UInt32 × UInt32)) := do
  let hint ← load32 .hdrRespHint
  match ← acquireFree s mypid hint s.respSlots.toNat 0 with
  | some taken => return some taken
  | none => acquireStale s mypid pidAlive s.respSlots.toNat 0

/-- `releaseRespSlot`. -/
def releaseRespSlot (idx : UInt32) : Exec Unit := do
  store32 (.respSlotOwnerPid idx) 0
  store32 (.respSlotState idx) layoutRespFree
  wakeSlotWaiters

/-! ## Sending -/

/-- What `trySend` returns: `(id, noSlots)`, or its error. -/
abbrev TrySendResult := Except ReqRepError (UInt64 × Bool)

/-- `trySend`. -/
def trySend (s : Shm) (mypid : UInt32) (pidAlive : UInt32 → Bool) (data : List UInt8) :
    Exec TrySendResult := do
  if data.length > layoutStrLenMask.toNat then
    return .error .errTooLong
  match ← acquireRespSlot s mypid pidAlive with
  | none => return .ok (0, true)
  | some (slotIdx, gen) =>
    mutexLock mypid
    let sent ← sendLocked s data slotIdx gen
    mutexUnlock
    if sent then
      wakeConsumers
      return .ok (packId gen slotIdx, false)
    else
      releaseRespSlot slotIdx
      return .ok (0, false)

/-! ## Responding, reading and giving up -/

/-- `writeResponse`. The `futexWake` that may follow its CAS stores nothing. -/
def writeResponse (s : Shm) (id : UInt64) (response : List UInt8) :
    Exec (Except ReqRepError Unit) := do
  let slotIdx := idSlot id
  let expectedGen := idGen id
  if slotIdx ≥ s.respSlots then
    return .error .errStaleSlot
  if response.length > s.respDataMax.toNat then
    return .error .errRespTooLong
  if (← load32 (.respSlotState slotIdx)) ≠ layoutRespAcquired then
    return .error .errStaleSlot
  if (← load32 (.respSlotGeneration slotIdx)) ≠ expectedGen then
    return .error .errStaleSlot
  copyIn (.respSlotData slotIdx) 0 response
  store32 (.respSlotLen slotIdx) (UInt32.ofNat response.length)
  store32 (.respSlotFlags slotIdx) 0
  if ← cas32 (.respSlotState slotIdx) layoutRespAcquired layoutRespReady then
    let _ ← add64 .hdrStatReplies 1
    return .ok ()
  else
    return .error .errStaleSlot

/-- `readAndRelease`. -/
def readAndRelease (s : Shm) (slotIdx : UInt32) : Exec (Except ReqRepError (List UInt8)) := do
  let length ← load32 (.respSlotLen slotIdx)
  if length > s.respDataMax then
    releaseRespSlot slotIdx
    return .error .errRespTooLong
  let result ← copyOut (.respSlotData slotIdx) 0 length.toNat
  releaseRespSlot slotIdx
  return .ok result

/-- One turn of the spin loop of `waitResponse`; `none` where it goes on. -/
def pollResponse (s : Shm) (id : UInt64) :
    Exec (Option (Except ReqRepError (List UInt8))) := do
  let slotIdx := idSlot id
  let expectedGen := idGen id
  if (← load32 (.respSlotGeneration slotIdx)) ≠ expectedGen then
    return some (.error .errStaleSlot)
  if (← load32 (.respSlotState slotIdx)) = layoutRespReady then
    return some (← readAndRelease s slotIdx)
  return none

/-- `cancelRequest`. The `futexWake` that may follow its increment stores nothing. -/
def cancelRequest (s : Shm) (id : UInt64) : Exec Unit := do
  let slotIdx := idSlot id
  let expectedGen := idGen id
  if slotIdx ≥ s.respSlots then
    return
  if (← load32 (.respSlotGeneration slotIdx)) ≠ expectedGen then
    return
  if ← cas32 (.respSlotState slotIdx) layoutRespAcquired layoutRespFree then
    store32 (.respSlotOwnerPid slotIdx) 0
    let _ ← add32 (.respSlotGeneration slotIdx) 1
    wakeSlotWaiters

/-- `tryDrainResponse`. -/
def tryDrainResponse (s : Shm) (id : UInt64) : Exec Unit := do
  let slotIdx := idSlot id
  let expectedGen := idGen id
  if slotIdx ≥ s.respSlots then
    return
  if (← load32 (.respSlotGeneration slotIdx)) ≠ expectedGen then
    return
  if (← load32 (.respSlotState slotIdx)) ≠ layoutRespReady then
    return
  releaseRespSlot slotIdx

end ReqRep
