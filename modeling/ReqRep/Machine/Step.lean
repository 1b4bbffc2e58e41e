import ReqRep.Machine.Thread
import ReqRep.Misc.Count
import ReqRep.Misc.Runs
import ReqRep.Queue.Locked

/-!
# The interleaving machine

Any number of goroutines of any number of processes over one mapping, one atomic
operation a step. `sendLocked` and `recvLocked` are one step each: they run under
the arena mutex, which is left out here. Contexts end, handlers answer or fail,
waits return early and processes die at any time.
-/

namespace ReqRep

/-- What a run is remembered by. -/
inductive Mark (n : Nat) where
  | acquired (t : Fin n) (id : UInt64)
  | ended (id : UInt64)
  | wrote (id : UInt64) (response : List UInt8)
  | answered (t : Fin n) (id : UInt64) (bytes : List UInt8)
  deriving DecidableEq, Repr

/-- The layout, and the process of each goroutine. -/
structure Setup (n : Nat) where
  shm : Shm
  pid : Fin n → UInt32

/-- A configuration. The last four fields are history, which no step reads: the
ids of the queued requests, the generation increments of each slot, the
goroutine that took each slot and has not lost it, and the marks, newest
first. -/
structure Cfg (n : Nat) where
  mem : Mem
  thr : Fin n → Thread
  dead : UInt32 → Bool
  pending : List UInt64
  bumps : UInt32 → Nat
  holder : UInt32 → Option (Fin n)
  log : List (Mark n)

/-- What the environment answers in a step: `pidAlive`, the handler (`none` is
an error or a panic), and whom a `futexWake` wakes. -/
structure Answer (n : Nat) where
  alive : Bool := true
  reply : Option (List UInt8) := none
  woken : List (Fin n) := []

namespace Cfg

variable {n : Nat}

/-- Goroutine `t` goes to a counter. -/
def goto (c : Cfg n) (t : Fin n) (pc : Pc) : Cfg n :=
  { c with thr := Function.update c.thr t { c.thr t with pc := pc } }

/-- A store to a 32-bit word. -/
def store (c : Cfg n) (l : Loc32) (v : UInt32) : Cfg n := { c with mem := c.mem.set32 l v }

/-- A mark of the history. -/
def note (c : Cfg n) (e : Mark n) : Cfg n := { c with log := e :: c.log }

/-- A generation increment. -/
def bump (c : Cfg n) (i : UInt32) : Cfg n :=
  { c.store (.respSlotGeneration i) (c.mem.u32 (.respSlotGeneration i) + 1) with
    bumps := Function.update c.bumps i (c.bumps i + 1) }

/-- A store to the state of a slot that takes or frees it. -/
def setState (c : Cfg n) (i state : UInt32) (h : Option (Fin n)) : Cfg n :=
  { c.store (.respSlotState i) state with holder := Function.update c.holder i h }

/-- `*respSlotState(slot)` of slot `i`. -/
def state (c : Cfg n) (i : UInt32) : UInt32 := c.mem.u32 (.respSlotState i)
/-- `*respSlotGeneration(slot)` of slot `i`. -/
def gen (c : Cfg n) (i : UInt32) : UInt32 := c.mem.u32 (.respSlotGeneration i)
/-- `*respSlotOwnerPid(slot)` of slot `i`. -/
def owner (c : Cfg n) (i : UInt32) : UInt32 := c.mem.u32 (.respSlotOwnerPid i)

/-- The goroutines that sleep on a futex word. -/
def sleepers (S : Setup n) (c : Cfg n) (l : Loc32) : List (Fin n) :=
  (List.finRange n).filter fun t => (c.thr t).pc.asleepOn = some l ∧ c.dead (S.pid t) = false

/-- `futexWake(l, k)` wakes any `min(k, sleepers)` goroutines. -/
def futexWake (S : Setup n) (c : Cfg n) (l : Loc32) (k : Nat) (woken : List (Fin n)) :
    Option (Cfg n) :=
  if woken.Nodup ∧ (∀ t ∈ woken, t ∈ c.sleepers S l) ∧
      woken.length = min k (c.sleepers S l).length then
    some { c with thr := fun t =>
      if t ∈ woken then { c.thr t with pc := (c.thr t).pc.awake } else c.thr t }
  else
    none

/-- `futexWait(l, v)`: to `asleep` if the word still is `v`, else on to `next`. -/
def futexWait (c : Cfg n) (t : Fin n) (l : Loc32) (v : UInt32) (asleep : Pc) : Cfg n :=
  c.goto t (if c.mem.u32 l = v then asleep else asleep.awake)

/-- One atomic operation of goroutine `t`. -/
def run (S : Setup n) (c : Cfg n) (t : Fin n) (ans : Answer n) : Option (Cfg n) :=
  let s := S.shm
  match (c.thr t).pc with
  | .idle => none
  | .wakeBump w next => some ((c.store w.futex (c.mem.u32 w.futex + 1)).goto t (.wakeLoad w next))
  | .wakeLoad w next => some (c.goto t (if c.mem.u32 w.waiters > 0 then .wakeCall w next else next))
  | .wakeCall w next => c.futexWake S w.futex 1 ans.woken |>.map (·.goto t next)
  -- acquireRespSlot
  | .acqHint a => some (c.goto t (.scan s a (c.mem.u32 .hdrRespHint) 0))
  | .acqCas a hint i =>
    let slot := (hint + i) % s.respSlots
    if c.state slot = layoutRespFree then
      some ((c.setState slot layoutRespAcquired (some t)).goto t (.acqOwner a slot true))
    else
      some (c.goto t (.scan s a hint (i + 1)))
  | .acqOwner a slot scan =>
    some ((c.store (.respSlotOwnerPid slot) (S.pid t)).goto t (.acqGen a slot scan))
  | .acqGen a slot scan =>
    let gen := c.gen slot + 1
    if gen = 0 then
      some ((c.bump slot).goto t (.acqGenAgain a slot scan))
    else
      some (((c.bump slot).note (.acquired t (packId gen slot))).goto t (.acquired a slot gen scan))
  | .acqGenAgain a slot scan =>
    let gen := c.gen slot + 1
    some (((c.bump slot).note (.acquired t (packId gen slot))).goto t (.acquired a slot gen scan))
  | .acqStoreHint a id =>
    some ((c.store .hdrRespHint ((idSlot id + 1) % s.respSlots)).goto t (.send a id))
  | .recState a i =>
    let state := c.state i
    if state ≠ layoutRespAcquired ∧ state ≠ layoutRespReady then
      some (c.goto t (.recover s a (i + 1)))
    else
      some (c.goto t (.recOwner a i state))
  | .recOwner a i state =>
    let pid := c.owner i
    if pid = 0 then
      some (c.goto t (.recover s a (i + 1)))
    else
      some (c.goto t (.recAlive a i state pid))
  | .recAlive a i state pid =>
    if ans.alive then
      some (c.goto t (.recover s a (i + 1)))
    else if c.dead pid then
      some (c.goto t (.recClear a i state))
    else
      none
  | .recClear a i state =>
    some ((c.store (.respSlotOwnerPid i) 0).goto t (.recFree a i state))
  | .recFree a i state =>
    if c.state i = state then
      some ((c.setState i layoutRespFree none).goto t (.recStat a i))
    else
      some (c.goto t (.recover s a (i + 1)))
  | .recStat a i =>
    some ((c.store .hdrStatRecoveries (c.mem.u32 .hdrStatRecoveries + 1)).goto t (.recGrab a i))
  | .recGrab a i =>
    if c.state i = layoutRespFree then
      some ((c.setState i layoutRespAcquired (some t)).goto t (.acqOwner a i false))
    else
      some (c.goto t (.wakeBump .slot (.recover s a (i + 1))))
  -- releaseRespSlot
  | .releaseOwner id next =>
    some (((c.store (.respSlotOwnerPid (idSlot id)) 0).note (.ended id)).goto t
      (.releaseState id next))
  | .releaseState id next =>
    some ((c.setState (idSlot id) layoutRespFree none).goto t (.wakeBump .slot next))
  -- trySend and sendWait
  | .send a id =>
    match (sendLocked s (c.thr t).req (idSlot id) (idGen id)).run c.mem with
    | none => none
    | some (true, w) =>
      some ({ c with mem := w.mem, pending := c.pending ++ [id] }.goto t
        (.wakeBump .recv (.sent a id)))
    | some (false, w) =>
      some ({ c with mem := w.mem }.goto t (.releaseOwner id (.sendFailed a false)))
  | .sendLoadSeq noSlots =>
    some (c.goto t (.acqHint (.second noSlots (c.mem.u32 (sendWord noSlots).futex))))
  | .sendTimeout noSlots fseq =>
    some (c.goto t (if (c.thr t).pastDeadline then .idle else .sendAddWaiters noSlots fseq))
  | .sendAddWaiters noSlots fseq =>
    let l := (sendWord noSlots).waiters
    some ((c.store l (c.mem.u32 l + 1)).goto t (.sendFutexWait noSlots fseq))
  | .sendFutexWait noSlots fseq =>
    some (c.futexWait t (sendWord noSlots).futex fseq (.sendAsleep noSlots))
  | .sendAsleep _ => none
  | .sendSubWaiters noSlots =>
    let l := (sendWord noSlots).waiters
    some ((c.store l (c.mem.u32 l - 1)).goto t .sendErr)
  | .sendErr => some (c.goto t (if (c.thr t).ctxErr then .idle else .acqHint .third))
  -- waitResponse
  | .spinErr id i => some (c.goto t (if (c.thr t).ctxErr then .giveUp id else .spinGen id i))
  | .spinGen id i =>
    some (c.goto t (if c.gen (idSlot id) ≠ idGen id then .giveUp id else .spinState id i))
  | .spinState id i =>
    some (c.goto t (if c.state (idSlot id) = layoutRespReady then .readLen id false
      else if i + 1 < layoutSpinLimit then .spinErr id (i + 1) else .waitAdd id))
  | .waitAdd id =>
    let l := .respSlotWaiters (idSlot id)
    some ((c.store l (c.mem.u32 l + 1)).goto t (.waitState id))
  | .waitState id => some (c.goto t (.waitGen id (c.state (idSlot id))))
  | .waitGen id state =>
    some (c.goto t (if c.gen (idSlot id) ≠ idGen id then .waitLeave id none
      else if state = layoutRespReady then .readLen id true else .waitErr id state))
  | .waitErr id state =>
    some (c.goto t (if (c.thr t).ctxErr then .waitLeave id none else .waitTimeout id state))
  | .waitTimeout id state =>
    some (c.goto t (if (c.thr t).pastDeadline then .waitLeave id none else .waitFutexWait id state))
  | .waitFutexWait id state =>
    some (c.futexWait t (.respSlotState (idSlot id)) state (.waitAsleep id))
  | .waitAsleep _ => none
  | .waitErrAfter id =>
    some (c.goto t (if (c.thr t).ctxErr then .waitLeave id none else .waitState id))
  | .waitLeave id result =>
    let l := .respSlotWaiters (idSlot id)
    some ((c.store l (c.mem.u32 l - 1)).goto t (.waitReturn id false result))
  | .answer id result => some ((c.note (.answered t id result)).goto t .idle)
  -- readAndRelease
  | .readLen id registered =>
    let length := c.mem.u32 (.respSlotLen (idSlot id))
    some (c.goto t (if length > s.respDataMax then .releaseOwner id (.waitReturn id registered none)
      else .readNext id registered length.toNat []))
  | .readCopy id registered length result =>
    let b := c.mem.u8 (.respSlotData (idSlot id) result.length)
    some (c.goto t (.readNext id registered length (result ++ [b])))
  -- cancelRequest
  | .cancelGen id next =>
    some (c.goto t (if idSlot id ≥ s.respSlots ∨ c.gen (idSlot id) ≠ idGen id then next
      else .cancelCas id next))
  | .cancelCas id next =>
    if c.state (idSlot id) = layoutRespAcquired then
      some (((c.setState (idSlot id) layoutRespFree none).note (.ended id)).goto t
        (.cancelOwner id next))
    else
      some (c.goto t next)
  | .cancelOwner id next =>
    some ((c.store (.respSlotOwnerPid (idSlot id)) 0).goto t (.cancelBump id next))
  | .cancelBump id next => some ((c.bump (idSlot id)).goto t (.cancelLoad id next))
  | .cancelLoad id next =>
    some (c.goto t (if c.mem.u32 (.respSlotWaiters (idSlot id)) > 0 then .cancelWake id next
      else .wakeBump .slot next))
  | .cancelWake id next =>
    c.futexWake S (.respSlotState (idSlot id)) 0x7FFFFFFF ans.woken |>.map
      (·.goto t (.wakeBump .slot next))
  -- tryDrainResponse
  | .drainGen id =>
    some (c.goto t (if idSlot id ≥ s.respSlots ∨ c.gen (idSlot id) ≠ idGen id then .idle
      else .drainState id))
  | .drainState id =>
    some (c.goto t (if c.state (idSlot id) ≠ layoutRespReady then .idle
      else .releaseOwner id .idle))
  -- recvWait
  | .recvTry a =>
    match (recvLocked s).run c.mem with
    | none => none
    | some (some (_, id), w) =>
      some ({ c with mem := w.mem, pending := c.pending.tail }.goto t
        (.wakeBump .send (.handle id)))
    | some (none, w) => some ({ c with mem := w.mem }.goto t (.recvFailed a))
  | .recvLoadSeq => some (c.goto t (.recvTry (.second (c.mem.u32 .hdrRecvFutex))))
  | .recvErr fseq => some (c.goto t (if (c.thr t).ctxErr then .idle else .recvAddWaiters fseq))
  | .recvAddWaiters fseq =>
    some ((c.store .hdrRecvWaiters (c.mem.u32 .hdrRecvWaiters + 1)).goto t (.recvFutexWait fseq))
  | .recvFutexWait fseq => some (c.futexWait t .hdrRecvFutex fseq .recvAsleep)
  | .recvAsleep => none
  | .recvSubWaiters =>
    some ((c.store .hdrRecvWaiters (c.mem.u32 .hdrRecvWaiters - 1)).goto t .recvErrAfter)
  | .recvErrAfter => some (c.goto t (if (c.thr t).ctxErr then .idle else .recvTry .third))
  -- the handler and writeResponse
  | .handle id =>
    match ans.reply with
    | none => some (c.goto t (.cancelGen id .idle))
    | some response =>
      some ((c.note (.wrote id response)).goto t
        (if idSlot id ≥ s.respSlots ∨ response.length > s.respDataMax.toNat then .idle
        else .writeState id response))
  | .writeState id response =>
    some (c.goto t (if c.state (idSlot id) ≠ layoutRespAcquired then .idle
      else .writeGen id response))
  | .writeGen id response =>
    some (c.goto t (if c.gen (idSlot id) ≠ idGen id then .idle else .writeNext id response 0))
  | .writeCopy id response k =>
    some ({ c with mem := c.mem.set8 (.respSlotData (idSlot id) k) (response.getD k 0) }.goto t
      (.writeNext id response (k + 1)))
  | .writeLen id response =>
    some ((c.store (.respSlotLen (idSlot id)) (UInt32.ofNat response.length)).goto t
      (.writeFlags id response))
  | .writeFlags id response =>
    some ((c.store (.respSlotFlags (idSlot id)) 0).goto t (.writeCas id response))
  | .writeCas id _ =>
    if c.state (idSlot id) = layoutRespAcquired then
      some ((c.store (.respSlotState (idSlot id)) layoutRespReady).goto t (.writeLoad id))
    else
      some (c.goto t .idle)
  | .writeLoad id =>
    some (c.goto t (if c.mem.u32 (.respSlotWaiters (idSlot id)) > 0 then .writeWake id
      else .writeStat))
  | .writeWake id =>
    c.futexWake S (.respSlotState (idSlot id)) 1 ans.woken |>.map (·.goto t .writeStat)
  | .writeStat =>
    some ({ c with mem := c.mem.set64 .hdrStatReplies (c.mem.u64 .hdrStatReplies + 1) }.goto t
      .idle)

end Cfg

/-- What happens in a step: a goroutine runs one operation, calls `Query` or
`Serve`, its context ends, its futex wait returns early, or a process dies. -/
inductive Act (n : Nat) where
  | run (t : Fin n) (ans : Answer n)
  | query (t : Fin n) (req : List UInt8)
  | serve (t : Fin n)
  | cancelCtx (t : Fin n)
  | deadline (t : Fin n)
  | wakeup (t : Fin n)
  | die (pid : UInt32)

variable {n : Nat}

/-- The goroutine that acts, if the act is one of a goroutine. -/
def Act.thread : Act n → Option (Fin n)
  | .run t _ | .query t _ | .serve t | .cancelCtx t | .deadline t | .wakeup t => some t
  | .die _ => none

/-- One step of the machine. Goroutines of dead processes do nothing. -/
def Cfg.step (S : Setup n) (c : Cfg n) (act : Act n) : Option (Cfg n) :=
  if act.thread.any (fun t => c.dead (S.pid t)) then none
  else match act with
  | .run t ans => c.run S t ans
  | .query t req =>
    if (c.thr t).pc = .idle then
      some { c with thr := Function.update c.thr t {
        pc := if req.length > layoutStrLenMask.toNat then .idle else .acqHint .first
        req := req
        ctxErr := false
        pastDeadline := false } }
    else none
  | .serve t =>
    if (c.thr t).pc = .idle then
      some { c with thr := Function.update c.thr t {
        pc := .recvTry .first
        req := []
        ctxErr := false
        pastDeadline := false } }
    else none
  | .cancelCtx t => some { c with thr := Function.update c.thr t { c.thr t with ctxErr := true } }
  | .deadline t =>
    some { c with thr := Function.update c.thr t { c.thr t with pastDeadline := true } }
  | .wakeup t =>
    if (c.thr t).pc.asleepOn = none then none else some (c.goto t (c.thr t).pc.awake)
  | .die pid => some { c with dead := Function.update c.dead pid true }

/-- The configuration after some acts, oldest first. -/
def Cfg.steps (S : Setup n) (c : Cfg n) (acts : List (Act n)) : Option (Cfg n) :=
  Runs.run (Cfg.step S) c acts

end ReqRep
