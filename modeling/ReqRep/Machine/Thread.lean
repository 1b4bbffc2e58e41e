import ReqRep.Shm.Memory

/-!
# Program counters

Where a goroutine is between two atomic operations. The names follow the
functions of the source; a subroutine carries the counter that its caller goes
on from. A client goroutine runs `Query`; a server goroutine runs `recvWait`
and then the handler of the request it received.
-/

namespace ReqRep

/-- The futex words of the three wake helpers. -/
inductive WakeWord where
  | recv
  | send
  | slot
  deriving DecidableEq, Repr

/-- The word itself. -/
def WakeWord.futex : WakeWord → Loc32
  | .recv => .hdrRecvFutex
  | .send => .hdrSendFutex
  | .slot => .hdrSlotFutex

/-- The count of those who wait on it. -/
def WakeWord.waiters : WakeWord → Loc32
  | .recv => .hdrRecvWaiters
  | .send => .hdrSendWaiters
  | .slot => .hdrSlotWaiters

/-- Which of its calls of `trySend` the loop of `sendWait` is in. The second one
has already read the futex word it will wait on: `slot_futex` when the attempt
before found no slot, `send_futex` otherwise. -/
inductive Attempt where
  | first
  | second (noSlots : Bool) (fseq : UInt32)
  | third
  deriving DecidableEq, Repr

/-- The word that `sendWait` sleeps on. -/
def sendWord (noSlots : Bool) : WakeWord := if noSlots then .slot else .send

/-- Which of its calls of `tryRecv` the loop of `recvWait` is in. -/
inductive RecvAttempt where
  | first
  | second (fseq : UInt32)
  | third
  deriving DecidableEq, Repr

/-- The operation that a goroutine does next. -/
inductive Pc where
  | idle
  -- wakeConsumers, wakeProducers, wakeSlotWaiters
  | wakeBump (w : WakeWord) (next : Pc)
  | wakeLoad (w : WakeWord) (next : Pc)
  | wakeCall (w : WakeWord) (next : Pc)
  -- acquireRespSlot, first pass
  | acqHint (a : Attempt)
  | acqCas (a : Attempt) (hint i : UInt32)
  | acqOwner (a : Attempt) (slot : UInt32) (scan : Bool)
  | acqGen (a : Attempt) (slot : UInt32) (scan : Bool)
  | acqGenAgain (a : Attempt) (slot : UInt32) (scan : Bool)
  | acqStoreHint (a : Attempt) (id : UInt64)
  -- acquireRespSlot, stale recovery
  | recState (a : Attempt) (i : UInt32)
  | recOwner (a : Attempt) (i state : UInt32)
  | recAlive (a : Attempt) (i state pid : UInt32)
  | recClear (a : Attempt) (i state : UInt32)
  | recFree (a : Attempt) (i state : UInt32)
  | recStat (a : Attempt) (i : UInt32)
  | recGrab (a : Attempt) (i : UInt32)
  -- releaseRespSlot
  | releaseOwner (id : UInt64) (next : Pc)
  | releaseState (id : UInt64) (next : Pc)
  -- trySend and sendWait
  | send (a : Attempt) (id : UInt64)
  | sendLoadSeq (noSlots : Bool)
  | sendTimeout (noSlots : Bool) (fseq : UInt32)
  | sendAddWaiters (noSlots : Bool) (fseq : UInt32)
  | sendFutexWait (noSlots : Bool) (fseq : UInt32)
  | sendAsleep (noSlots : Bool)
  | sendSubWaiters (noSlots : Bool)
  | sendErr
  -- waitResponse, spin phase
  | spinErr (id : UInt64) (i : Nat)
  | spinGen (id : UInt64) (i : Nat)
  | spinState (id : UInt64) (i : Nat)
  -- waitResponse, futex phase
  | waitAdd (id : UInt64)
  | waitState (id : UInt64)
  | waitGen (id : UInt64) (state : UInt32)
  | waitErr (id : UInt64) (state : UInt32)
  | waitTimeout (id : UInt64) (state : UInt32)
  | waitFutexWait (id : UInt64) (state : UInt32)
  | waitAsleep (id : UInt64)
  | waitErrAfter (id : UInt64)
  -- the deferred decrement of resp_waiters, and the return of waitResponse
  | waitLeave (id : UInt64) (result : Option (List UInt8))
  | answer (id : UInt64) (result : List UInt8)
  -- readAndRelease; `registered` in the futex phase
  | readLen (id : UInt64) (registered : Bool)
  | readCopy (id : UInt64) (registered : Bool) (length : Nat) (result : List UInt8)
  -- cancelRequest
  | cancelGen (id : UInt64) (next : Pc)
  | cancelCas (id : UInt64) (next : Pc)
  | cancelOwner (id : UInt64) (next : Pc)
  | cancelBump (id : UInt64) (next : Pc)
  | cancelLoad (id : UInt64) (next : Pc)
  | cancelWake (id : UInt64) (next : Pc)
  -- tryDrainResponse
  | drainGen (id : UInt64)
  | drainState (id : UInt64)
  -- recvWait
  | recvTry (a : RecvAttempt)
  | recvLoadSeq
  | recvErr (fseq : UInt32)
  | recvAddWaiters (fseq : UInt32)
  | recvFutexWait (fseq : UInt32)
  | recvAsleep
  | recvSubWaiters
  | recvErrAfter
  -- the handler's goroutine and writeResponse
  | handle (id : UInt64)
  | writeState (id : UInt64) (response : List UInt8)
  | writeGen (id : UInt64) (response : List UInt8)
  | writeCopy (id : UInt64) (response : List UInt8) (k : Nat)
  | writeLen (id : UInt64) (response : List UInt8)
  | writeFlags (id : UInt64) (response : List UInt8)
  | writeCas (id : UInt64) (response : List UInt8)
  | writeLoad (id : UInt64)
  | writeWake (id : UInt64)
  | writeStat
  deriving DecidableEq, Repr

namespace Pc

/-! ## Control flow without shared accesses -/

/-- After an attempt of `trySend` that failed. -/
def sendFailed : Attempt → Bool → Pc
  | .first, noSlots => .sendLoadSeq noSlots
  | .second onSlots fseq, _ => .sendTimeout onSlots fseq
  | .third, noSlots => .sendLoadSeq noSlots

/-- After `trySend` sent the request: `id != 0` is what `sendWait` takes for
success. -/
def sent (a : Attempt) (id : UInt64) : Pc :=
  if id ≠ 0 then .spinErr id 0 else sendFailed a false

/-- The head of the loop of the second pass. -/
def recover (s : Shm) (a : Attempt) (i : UInt32) : Pc :=
  if i < s.respSlots then .recState a i else sendFailed a true

/-- The head of the loop of the first pass. -/
def scan (s : Shm) (a : Attempt) (hint i : UInt32) : Pc :=
  if i < s.respSlots then .acqCas a hint i else recover s a 0

/-- After the generation of an acquired slot is known. -/
def acquired (a : Attempt) (slot gen : UInt32) (scan : Bool) : Pc :=
  if scan then .acqStoreHint a (packId gen slot) else .send a (packId gen slot)

/-- `Query` after `waitResponse` failed: cancel, then drain. -/
def giveUp (id : UInt64) : Pc := .cancelGen id (.drainGen id)

/-- `waitResponse` returns, through the deferred decrement in the futex phase. -/
def waitReturn (id : UInt64) (registered : Bool) (result : Option (List UInt8)) : Pc :=
  if registered then .waitLeave id result
  else match result with
    | some bytes => .answer id bytes
    | none => giveUp id

/-- `readAndRelease` copies, then releases. -/
def readNext (id : UInt64) (registered : Bool) (length : Nat) (result : List UInt8) : Pc :=
  if result.length < length then .readCopy id registered length result
  else .releaseOwner id (waitReturn id registered (some result))

/-- `writeResponse` copies, then stores the length. -/
def writeNext (id : UInt64) (response : List UInt8) (k : Nat) : Pc :=
  if k < response.length then .writeCopy id response k else .writeLen id response

/-- After an attempt of `tryRecv` on an empty queue. -/
def recvFailed : RecvAttempt → Pc
  | .first => .recvLoadSeq
  | .second fseq => .recvErr fseq
  | .third => .recvLoadSeq

/-- The futex word a sleeping goroutine waits on. -/
def asleepOn : Pc → Option Loc32
  | .waitAsleep id => some (.respSlotState (idSlot id))
  | .sendAsleep noSlots => some (sendWord noSlots).futex
  | .recvAsleep => some .hdrRecvFutex
  | _ => none

/-- Where `futexWait` returns to. -/
def awake : Pc → Pc
  | .waitAsleep id => .waitErrAfter id
  | .sendAsleep noSlots => .sendSubWaiters noSlots
  | .recvAsleep => .recvSubWaiters
  | pc => pc

end Pc

/-- A goroutine: its counter, the request of its `Query`, and its context.
`ctxErr` is `ctx.Err() != nil`; `pastDeadline` makes the timespec of a wait
zero. -/
structure Thread where
  pc : Pc
  req : List UInt8
  ctxErr : Bool
  pastDeadline : Bool
  deriving DecidableEq, Repr

end ReqRep
