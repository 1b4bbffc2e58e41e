import ReqRep.Machine.Start
import ReqRep.Mutex.Exclusion
import ReqRep.Queue.ByAccess

/-!
# The machine with its critical sections

The interleaving machine takes `sendLocked` and `recvLocked` in one step each.
Here they are what the source has: `mutexLock`, the accesses of the section one by
one, and `mutexUnlock`, with every other operation of every other goroutine in
between. The words of the arena mutex are those of the mutex machine; everything
else goes on as before.
-/

namespace ReqRep.Fine

open BoundedQueue (Event)

/-! ## Critical sections -/

/-- What a critical section returns. -/
inductive Outcome where
  | sent (ok : Bool)
  | received (got : Option Delivery)
  deriving DecidableEq

/-- The critical section at a counter. -/
def body (s : Shm) (th : Thread) : Option (Body Outcome) :=
  match th.pc with
  | .send _ id => some (.sent <$> ByAccess.sendLocked s th.req (idSlot id) (idGen id))
  | .recvTry _ => some (.received <$> ByAccess.recvLocked s)
  | _ => none

/-- What its caller sees of the queue. -/
def seen (th : Thread) : Outcome → Event Delivery
  | .sent true =>
    match th.pc with
    | .send _ id => .push (th.req, id)
    | _ => .skip
  | .sent false => .reject
  | .received (some got) => .pop got
  | .received none => .empty

/-- What a death inside a section does to the queue, between the memory that the
goroutine found and the one that it leaves: a request counts from the increment of
`req_tail` on, and until the increment of `req_head`. -/
def died (th : Thread) (m m' : Mem) : Event Delivery :=
  match th.pc with
  | .send _ id =>
    if m'.u64 .hdrReqTail = m.u64 .hdrReqTail then .skip else .push (th.req, id)
  | _ => if m'.u64 .hdrReqHead = m.u64 .hdrReqHead then .skip else .drop

/-- The goroutine goes on with the outcome of its section. -/
def finish {n : Nat} (c : ReqRep.Cfg n) (t : Fin n) (outcome : Outcome) : ReqRep.Cfg n :=
  match (c.thr t).pc, outcome with
  | .send a id, .sent true =>
    { c with pending := c.pending ++ [id] }.goto t (.wakeBump .recv (.sent a id))
  | .send a id, .sent false => c.goto t (.releaseOwner id (.sendFailed a false))
  | .recvTry _, .received (some (_, id)) =>
    { c with pending := c.pending.tail }.goto t (.wakeBump .send (.handle id))
  | .recvTry a, .received none => c.goto t (.recvFailed a)
  | _, _ => c

/-! ## Steps -/

/-- The layout, and the process of each goroutine. -/
structure Setup (n : Nat) where
  shm : Shm
  pid : Fin n → Mutex.Pid

/-- The same for the machine whose sections take one step. -/
def Setup.base {n : Nat} (S : Setup n) : ReqRep.Setup n := ⟨S.shm, fun t => (S.pid t).val⟩

/-- What a `recvWait` remembers of its waits: whether the last one ended with
ETIMEDOUT, and the counters of the check for a stale holder. -/
structure Poll where
  expired : Bool
  tm : Timeouts

/-- A configuration: the memory and the goroutines outside of their sections, the
words of the mutex and the goroutines in its functions, what is left of the
section of each goroutine, and the local variables of `recvWait`. The last two
fields are history, which no step reads: the memory that a goroutine found when it
got the mutex, and what the users of the queue saw, oldest first. The recoveries
of the mutex are counted with the words of the mutex, those of the slots in the
memory; `stat_recoveries` is their sum. -/
structure Cfg (n : Nat) where
  cfg : ReqRep.Cfg n
  lock : Mutex.Cfg n
  job : Fin n → Body Outcome
  poll : Fin n → Poll
  entry : Fin n → Mem
  events : List (Event Delivery)

namespace Cfg

variable {n : Nat}

/-- A goroutine that has the mutex, and is not dead. -/
def Inside (S : Setup n) (f : Cfg n) (t : Fin n) : Prop := f.lock.Inside S.pid t

instance (S : Setup n) (f : Cfg n) (t : Fin n) : Decidable (f.Inside S t) :=
  inferInstanceAs (Decidable (f.lock.Inside S.pid t))

/-- One atomic operation of goroutine `t`; `held` are the answers to the functions
of the mutex. -/
def run (S : Setup n) (f : Cfg n) (t : Fin n) (ans : ReqRep.Answer n) (held : Mutex.Answer n) :
    Option (Cfg n) :=
  match f.lock.pc t with
  | .idle =>
    -- the check of recvWait for a stale holder, before its second look at the context
    if (f.poll t).expired ∧ (f.cfg.thr t).pc = .recvErrAfter then some { f with
      lock := f.lock.goto t (.staleLoad .recvWait (f.poll t).tm)
      poll := Function.update f.poll t ⟨false, (f.poll t).tm⟩ }
    else match body S.shm (f.cfg.thr t) with
    | none => (f.cfg.run S.base t ans).map fun c => { f with cfg := c }
    | some job => some { f with
        lock := f.lock.goto t (.lock .once)
        job := Function.update f.job t job }
  | .recvErr tm => some { f with
      lock := f.lock.goto t .idle
      poll := Function.update f.poll t ⟨false, tm⟩ }
  | .locked _ =>
    match f.job t with
    | .access a next =>
      let (answer, w) := mapping.perform a ⟨f.cfg.mem, []⟩
      some { f with
        cfg := { f.cfg with mem := w.mem }
        job := Function.update f.job t (next answer) }
    | .abort => none
    | .done outcome => (f.lock.run S.pid t held).map fun l => { f with
        cfg := finish f.cfg t outcome
        lock := l
        events := f.events ++ [seen (f.cfg.thr t) outcome] }
  | _ => (f.lock.run S.pid t held).map fun l => { f with
      lock := l
      entry := if (l.pc t).place = .inside then Function.update f.entry t f.cfg.mem else f.entry }

/-- The death of goroutine `t` inside its section. -/
def cut (f : Cfg n) (t : Fin n) : Event Delivery := died (f.cfg.thr t) (f.entry t) f.cfg.mem

/-- What the death of a process does to the queue. -/
def cuts (S : Setup n) (f : Cfg n) (pid : UInt32) : List (Event Delivery) :=
  ((List.finRange n).filter fun t => (S.pid t).val = pid ∧ f.Inside S t).map f.cut

end Cfg

/-- The ids that are queued after an event. -/
def queuedAfter (pending : List UInt64) : Event Delivery → List UInt64
  | .push (_, id) => pending ++ [id]
  | .pop _ | .drop => pending.tail
  | .reject | .empty | .skip => pending

/-- What happens in a step: a goroutine runs one operation, something happens to
it outside of the mutex, the wait of its `recvWait` times out, its wait on the
mutex returns early or times out, or a process dies. -/
inductive Act (n : Nat) where
  | run (t : Fin n) (ans : ReqRep.Answer n) (held : Mutex.Answer n)
  | query (t : Fin n) (req : List UInt8)
  | serve (t : Fin n)
  | cancelCtx (t : Fin n)
  | deadline (t : Fin n)
  | wakeup (t : Fin n)
  | recvTimeout (t : Fin n)
  | lockWakeup (t : Fin n)
  | lockTimeout (t : Fin n)
  | die (pid : UInt32)

variable {n : Nat}

/-- One step of the machine. Goroutines of dead processes do nothing. -/
def Cfg.step (S : Setup n) (f : Cfg n) (act : Act n) : Option (Cfg n) :=
  let outside := fun act => (f.cfg.step S.base act).map fun c => { f with cfg := c }
  let inside := fun act => (f.lock.step S.pid act).map fun l => { f with lock := l }
  match act with
  | .run t ans held => if f.cfg.dead (S.pid t) then none else f.run S t ans held
  | .query t req => outside (.query t req)
  | .serve t => (outside (.serve t)).map fun f =>
    { f with poll := Function.update f.poll t ⟨false, .start⟩ }
  | .cancelCtx t => outside (.cancelCtx t)
  | .deadline t => outside (.deadline t)
  | .wakeup t => outside (.wakeup t)
  | .recvTimeout t =>
    if (f.cfg.thr t).pc = .recvAsleep then
      (outside (.wakeup t)).map fun f =>
        { f with poll := Function.update f.poll t ⟨true, (f.poll t).tm⟩ }
    else none
  | .lockWakeup t => inside (.wakeup t)
  | .lockTimeout t => inside (.timeout t)
  | .die pid => some { f with
      cfg := { f.cfg with
        dead := Function.update f.cfg.dead pid true
        pending := (f.cuts S pid).foldl queuedAfter f.cfg.pending }
      lock := { f.lock with dead := Function.update f.lock.dead pid true }
      events := f.events ++ f.cuts S pid }

/-- The configuration after some acts, oldest first. -/
def Cfg.steps (S : Setup n) (f : Cfg n) (acts : List (Act n)) : Option (Cfg n) :=
  Runs.run (Cfg.step S) f acts

/-- A fresh file. -/
def fresh (n : Nat) : Cfg n where
  cfg := freshCfg n
  lock := Mutex.fresh n
  job _ := .done (.received none)
  poll _ := ⟨false, .start⟩
  entry _ := freshMem 0
  events := []

/-- Two processes on a small layout with one slot. -/
def tinySetup : Setup 2 where
  shm := tinyShm
  pid := ![⟨1, by decide⟩, ⟨2, by decide⟩]

/-- Some operations of one goroutine, with the default answers. -/
def go (t : Fin n) (k : Nat) : List (Act n) := List.replicate k (.run t {} {})

end ReqRep.Fine
