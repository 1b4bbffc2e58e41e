import ReqRep.Misc.Count
import ReqRep.Misc.Runs
import ReqRep.Mutex.Stale
import ReqRep.Queue.Locked

/-!
# The mutex machine

Any number of goroutines of any number of processes over the words of the arena
mutex, one atomic operation a step. A goroutine locks and unlocks once, as
`trySend` does, or runs `recvWait`, whose three calls of `tryRecv` lock and
unlock too; what they do with the mutex held is left out. Waits return early and
processes die at any time.
-/

namespace ReqRep.Mutex

/-! ## Program counters -/

/-- Which of its calls of `tryRecv` the loop of `recvWait` is in. -/
inductive TryRecv where
  | first
  | second
  | third
  deriving DecidableEq, Repr

/-- Who called `mutexLock`; `recvWait` has counters of its own. -/
inductive Caller where
  | once
  | recvWait (attempt : TryRecv) (tm : Timeouts)
  deriving DecidableEq, Repr

/-- The loop that checks for a stale holder after ETIMEDOUT. -/
inductive Loop where
  | mutexLock (a : Caller)
  | recvWait
  deriving DecidableEq, Repr

/-- Where a goroutine is between two atomic operations. `tm` are the counters of
the loop it is in. -/
inductive Pc where
  | idle
  -- mutexLock
  | lockSpin (a : Caller) (tm : Timeouts) (spin : Nat)
  | lockAdd (a : Caller) (tm : Timeouts)
  | lockLoad (a : Caller) (tm : Timeouts)
  | lockFutexWait (a : Caller) (tm : Timeouts) (cur : UInt32)
  | lockAsleep (a : Caller) (tm : Timeouts)
  | lockSub (a : Caller) (tm : Timeouts)
  | lockRetry (a : Caller) (tm : Timeouts)
  | lockTimedOut (a : Caller) (tm : Timeouts)
  -- the check after ETIMEDOUT, and recoverStaleMutex
  | staleLoad (l : Loop) (tm : Timeouts)
  | staleAlive (l : Loop) (tm : Timeouts) (val : UInt32)
  | recoverCas (l : Loop) (tm : Timeouts) (observed : UInt32)
  | recoverStat (l : Loop) (tm : Timeouts)
  | recoverLoad (l : Loop) (tm : Timeouts)
  | recoverWake (l : Loop) (tm : Timeouts)
  -- between mutexLock and mutexUnlock
  | locked (a : Caller)
  -- mutexUnlock, and the return from it
  | unlockLoad (a : Caller)
  | unlockWake (a : Caller)
  | unlocked (a : Caller)
  -- recvWait
  | recvFutexWait (tm : Timeouts)
  | recvErr (tm : Timeouts)
  deriving DecidableEq, Repr

namespace Pc

/-- `mutexLock`. -/
def lock (a : Caller) : Pc := .lockSpin a .start 0

/-- The head of the spin loop. -/
def spin (a : Caller) (tm : Timeouts) (k : Nat) : Pc :=
  if k < layoutSpinLimit then .lockSpin a tm k else .lockAdd a tm

/-- After the check for a stale holder. -/
def checked (tm : Timeouts) : Loop → Pc
  | .mutexLock a => .lockSpin a tm 0
  | .recvWait => .recvErr tm

/-- After `tryRecv` or `trySend`; `ok` when a request was received. -/
def returned (ok : Bool) : Caller → Pc
  | .once => .idle
  | .recvWait attempt tm =>
    if ok then .idle
    else match attempt with
      | .first | .third => .lock (.recvWait .second tm)
      | .second => .recvFutexWait tm

end Pc

/-! ## Steps -/

/-- A PID: 1..2^31-1. -/
abbrev Pid : Type := { pid : UInt32 // 0 < pid ∧ pid ≤ layoutMutexPidMask }

/-- A configuration: `hdr.mutex`, `hdr.mutex_waiters`, `hdr.stat_recoveries`, the
goroutines, and the processes that have died. -/
structure Cfg (n : Nat) where
  mutex : UInt32
  waiters : UInt32
  recoveries : UInt32
  pc : Fin n → Pc
  dead : UInt32 → Bool

/-- A fresh file, with all goroutines idle. -/
def fresh (n : Nat) : Cfg n := ⟨0, 0, 0, fun _ => .idle, fun _ => false⟩

/-- What the environment answers in a step: `kill(pid, 0)`, whether `tryRecv`
receives, whether the context has ended, whether the wait of `recvWait` times
out, and whom a `futexWake` wakes. -/
structure Answer (n : Nat) where
  alive : Bool := true
  received : Bool := false
  ended : Bool := false
  timedOut : Bool := false
  woken : List (Fin n) := []

/-- `pidAlive`, given the answer of `kill`. -/
def pidAlive (pid : UInt32) (answer : Bool) : Bool := if pid = 0 then true else answer

namespace Cfg

variable {n : Nat}

/-- Goroutine `t` goes to a counter. -/
def goto (c : Cfg n) (t : Fin n) (pc : Pc) : Cfg n := { c with pc := Function.update c.pc t pc }

@[simp] theorem goto_self (c : Cfg n) (t : Fin n) (pc : Pc) : (c.goto t pc).pc t = pc :=
  Function.update_self ..

theorem goto_of_ne (c : Cfg n) {t t' : Fin n} (pc : Pc) (other : t' ≠ t) :
    (c.goto t pc).pc t' = c.pc t' :=
  Function.update_of_ne other ..

@[simp] theorem goto_goto (c : Cfg n) (t : Fin n) (pc pc' : Pc) :
    (c.goto t pc).goto t pc' = c.goto t pc' := by
  simp [goto]

/-- A sleeper whose wait returns nil. -/
def awake : Pc → Pc
  | .lockAsleep a tm => .lockSub a tm
  | pc => pc

/-- In the `futexWait` of `mutexLock`. -/
def asleep : Pc → Bool
  | .lockAsleep _ _ => true
  | _ => false

/-- The goroutines that sleep on the mutex word. -/
def sleepers (pid : Fin n → Pid) (c : Cfg n) : List (Fin n) :=
  (List.finRange n).filter fun t => asleep (c.pc t) && !c.dead (pid t)

/-- `futexWake(mutexPtr, 1)` wakes any one sleeper. -/
def futexWake (pid : Fin n → Pid) (c : Cfg n) (woken : List (Fin n)) : Option (Cfg n) :=
  if (∀ t ∈ woken, t ∈ c.sleepers pid) ∧ woken.length = min 1 (c.sleepers pid).length then
    some { c with pc := fun t => if t ∈ woken then awake (c.pc t) else c.pc t }
  else
    none

/-- One atomic operation of goroutine `t`. -/
def run (pid : Fin n → Pid) (c : Cfg n) (t : Fin n) (ans : Answer n) : Option (Cfg n) :=
  let mypid := mutexWord (pid t)
  match c.pc t with
  | .idle => none
  -- mutexLock
  | .lockSpin a tm k =>
    if c.mutex = 0 then some ({ c with mutex := mypid }.goto t (.locked a))
    else some (c.goto t (.spin a tm (k + 1)))
  | .lockAdd a tm => some ({ c with waiters := c.waiters + 1 }.goto t (.lockLoad a tm))
  | .lockLoad a tm =>
    some (c.goto t (if c.mutex ≠ 0 then .lockFutexWait a tm c.mutex else .lockSub a tm))
  | .lockFutexWait a tm cur =>
    some (c.goto t (if c.mutex = cur then .lockAsleep a tm else .lockSub a tm))
  | .lockAsleep _ _ => none
  | .lockSub a tm => some ({ c with waiters := c.waiters - 1 }.goto t (.lockRetry a tm))
  | .lockRetry a tm =>
    if c.mutex = 0 then some ({ c with mutex := mypid }.goto t (.locked a))
    else some (c.goto t (.lockSpin a tm 0))
  | .lockTimedOut a tm =>
    some ({ c with waiters := c.waiters - 1 }.goto t (.staleLoad (.mutexLock a) tm))
  -- the check after ETIMEDOUT, and recoverStaleMutex
  | .staleLoad l tm =>
    some (c.goto t (if c.mutex ≥ layoutMutexWriterBit then .staleAlive l tm c.mutex
      else .checked tm l))
  | .staleAlive l tm val =>
    let holder := val &&& layoutMutexPidMask
    let alive := pidAlive holder ans.alive
    if !alive ∧ !c.dead holder then none
    else match tm.check val alive with
      | (tm, some observed) => some (c.goto t (.recoverCas l tm observed))
      | (tm, none) => some (c.goto t (.checked tm l))
  | .recoverCas l tm observed =>
    if c.mutex = observed then some ({ c with mutex := 0 }.goto t (.recoverStat l tm))
    else some (c.goto t (.checked tm l))
  | .recoverStat l tm => some ({ c with recoveries := c.recoveries + 1 }.goto t (.recoverLoad l tm))
  | .recoverLoad l tm =>
    some (c.goto t (if c.waiters > 0 then .recoverWake l tm else .checked tm l))
  | .recoverWake l tm => c.futexWake pid ans.woken |>.map (·.goto t (.checked tm l))
  -- mutexUnlock
  | .locked a => some ({ c with mutex := 0 }.goto t (.unlockLoad a))
  | .unlockLoad a => some (c.goto t (if c.waiters > 0 then .unlockWake a else .unlocked a))
  | .unlockWake a => c.futexWake pid ans.woken |>.map (·.goto t (.unlocked a))
  | .unlocked a => some (c.goto t (.returned ans.received a))
  -- recvWait
  | .recvFutexWait tm =>
    some (c.goto t (if ans.ended then .idle else if ans.timedOut then .staleLoad .recvWait tm
      else .recvErr tm))
  | .recvErr tm => some (c.goto t (if ans.ended then .idle else .lock (.recvWait .third tm)))

end Cfg

/-- What happens in a step: a goroutine runs one operation, calls `trySend` or
`recvWait`, its wait on the mutex returns early or times out, or a process
dies. -/
inductive Act (n : Nat) where
  | run (t : Fin n) (ans : Answer n)
  | trySend (t : Fin n)
  | recvWait (t : Fin n)
  | wakeup (t : Fin n)
  | timeout (t : Fin n)
  | die (pid : UInt32)

variable {n : Nat}

/-- The goroutine that acts, if the act is one of a goroutine. -/
def Act.thread : Act n → Option (Fin n)
  | .run t _ | .trySend t | .recvWait t | .wakeup t | .timeout t => some t
  | .die _ => none

/-- One step of the machine. Goroutines of dead processes do nothing. -/
def Cfg.step (pid : Fin n → Pid) (c : Cfg n) (act : Act n) : Option (Cfg n) :=
  if act.thread.any (fun t => c.dead (pid t)) then none
  else match act with
  | .run t ans => c.run pid t ans
  | .trySend t => if c.pc t = .idle then some (c.goto t (.lock .once)) else none
  | .recvWait t =>
    if c.pc t = .idle then some (c.goto t (.lock (.recvWait .first .start))) else none
  | .wakeup t =>
    match c.pc t with
    | .lockAsleep a tm => some (c.goto t (.lockSub a tm))
    | _ => none
  | .timeout t =>
    match c.pc t with
    | .lockAsleep a tm => some (c.goto t (.lockTimedOut a tm))
    | _ => none
  | .die pid => some { c with dead := Function.update c.dead pid true }

/-- The configuration after some acts, oldest first. -/
def Cfg.steps (pid : Fin n → Pid) (c : Cfg n) (acts : List (Act n)) : Option (Cfg n) :=
  Runs.run (Cfg.step pid) c acts

end ReqRep.Mutex
