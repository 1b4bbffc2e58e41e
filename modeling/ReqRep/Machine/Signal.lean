import ReqRep.Machine.Refine

/-!
# Wake words

`recv_futex`, `send_futex` and `slot_futex` count events: whoever waits for one
loads the word, looks once more, and sleeps on the value that it loaded.
`Signals` lists what an operation does to the words, to the counts of waiters, and
to what the words tell of: the queue and the free slots.
-/

namespace ReqRep

/-- What a goroutine has looked for in vain: all that a word tells of, or a FREE
slot in the first iterations of the first pass. -/
inductive Check where
  | whole (w : WakeWord)
  | scanned (hint i : UInt32)
  deriving DecidableEq, Repr

/-- The word that tells of what was looked for. -/
def Check.word : Check → WakeWord
  | .whole w => w
  | .scanned _ _ => .slot

/-! ## What a counter says -/

/-- The word and the value that the second attempt of `sendWait` will wait on. -/
def Attempt.loaded : Attempt → Option (WakeWord × UInt32)
  | .second noSlots fseq => some (sendWord noSlots, fseq)
  | _ => none

namespace Pc

/-- The wake helper that is due: what it tells of has happened. -/
def due : Pc → Option WakeWord
  | .wakeBump w _ | .wakeLoad w _ | .wakeCall w _ => some w
  | .cancelOwner _ _ | .cancelBump _ _ | .cancelLoad _ _ | .cancelWake _ _ => some .slot
  | _ => none

/-- The wake helper whose bump is still to come. -/
def unsaid : Pc → Option WakeWord
  | .wakeBump w _ => some w
  | .cancelOwner _ _ | .cancelBump _ _ | .cancelLoad _ _ | .cancelWake _ _ => some .slot
  | _ => none

/-- The word that the next operation bumps. -/
def bumps : Pc → Option WakeWord
  | .wakeBump w _ => some w
  | _ => none

/-- The word whose waiters the goroutine is counted in. -/
def registeredOn : Pc → Option WakeWord
  | .sendFutexWait noSlots _ | .sendAsleep noSlots | .sendSubWaiters noSlots =>
    some (sendWord noSlots)
  | .recvFutexWait _ | .recvAsleep | .recvSubWaiters => some .recv
  | _ => none

/-- The word that the goroutine sleeps on. -/
def sleepsOn : Pc → Option WakeWord
  | .sendAsleep noSlots => some (sendWord noSlots)
  | .recvAsleep => some .recv
  | _ => none

/-- The attempt of `trySend` that is under way. -/
def attempt : Pc → Option Attempt
  | .acqHint a | .acqCas a _ _ | .acqOwner a _ _ | .acqGen a _ _ | .acqGenAgain a _ _
  | .acqStoreHint a _ | .recState a _ | .recOwner a _ _ | .recAlive a _ _ _ | .recClear a _ _
  | .recFree a _ _ | .recStat a _ | .recGrab a _ | .send a _ => some a
  | _ => none

/-- The attempt whose first pass has found no slot. -/
def recovering : Pc → Option Attempt
  | .recState a _ | .recOwner a _ _ | .recAlive a _ _ _ => some a
  | _ => none

/-- The word that the goroutine is going to wait on, and the value it loaded. -/
def loaded : Pc → Option (WakeWord × UInt32)
  | .wakeBump _ next | .wakeLoad _ next | .wakeCall _ next | .releaseOwner _ next
  | .releaseState _ next | .cancelGen _ next | .cancelCas _ next | .cancelOwner _ next
  | .cancelBump _ next | .cancelLoad _ next | .cancelWake _ next => next.loaded
  | .sendTimeout noSlots fseq | .sendAddWaiters noSlots fseq | .sendFutexWait noSlots fseq =>
    some (sendWord noSlots, fseq)
  | .recvTry (.second fseq) | .recvErr fseq | .recvAddWaiters fseq | .recvFutexWait fseq =>
    some (.recv, fseq)
  | pc => pc.attempt.bind Attempt.loaded

/-- What the goroutine has looked for in vain since its load, up to what its own
release of a slot tells of. -/
def checks : Pc → Option Check
  | .acqCas (.second true _) hint i => some (.scanned hint i)
  | .recState (.second true _) _ | .recOwner (.second true _) _ _
  | .recAlive (.second true _) _ _ _ => some (.whole .slot)
  | .releaseOwner _ next | .releaseState _ next => next.checks.filter (·.word ≠ .slot)
  | .wakeBump w next => next.checks.filter (·.word ≠ w)
  | .wakeLoad _ next | .wakeCall _ next | .cancelGen _ next | .cancelCas _ next
  | .cancelOwner _ next | .cancelBump _ next | .cancelLoad _ next | .cancelWake _ next =>
    next.checks
  | .sendTimeout noSlots _ | .sendAddWaiters noSlots _ | .sendFutexWait noSlots _ =>
    some (.whole (sendWord noSlots))
  | .recvErr _ | .recvAddWaiters _ | .recvFutexWait _ => some (.whole .recv)
  | _ => none

/-- In the loop of `sendWait`, up to the `sendLocked` that succeeds. -/
def sends : Pc → Bool
  | .releaseOwner _ next | .releaseState _ next | .wakeBump .slot next | .wakeLoad .slot next
  | .wakeCall .slot next => next.sends
  | .sendLoadSeq _ | .sendTimeout _ _ | .sendAddWaiters _ _ | .sendFutexWait _ _ | .sendAsleep _
  | .sendSubWaiters _ | .sendErr => true
  | pc => pc.attempt.isSome

/-- In the loop of `sendWait`, without a slot. -/
def seeks : Pc → Bool
  | .acqHint _ | .acqCas _ _ _ | .recState _ _ | .recOwner _ _ _ | .recAlive _ _ _ _
  | .sendLoadSeq _ | .sendTimeout _ _ | .sendAddWaiters _ _ | .sendFutexWait _ _ | .sendAsleep _
  | .sendSubWaiters _ | .sendErr => true
  | _ => false

/-- In `recvWait`, up to the `recvLocked` that succeeds. -/
def receives : Pc → Bool
  | .recvTry _ | .recvLoadSeq | .recvErr _ | .recvAddWaiters _ | .recvFutexWait _ | .recvAsleep
  | .recvSubWaiters | .recvErrAfter => true
  | _ => false

/-- In the loop that waits on a word, and in want of what it tells of. -/
def loops : WakeWord → Pc → Bool
  | .recv => receives
  | .send => sends
  | .slot => seeks

/-- At an operation that may get what a word tells of. -/
def uses : Pc → Bool
  | .recvTry _ | .acqCas _ _ _ | .recGrab _ _ | .send _ _ => true
  | _ => false

/-- Past the answer of `pidAlive` that a process is dead. -/
def condemns : Pc → Bool
  | .recClear _ _ _ | .recFree _ _ _ | .recStat _ _ | .recGrab _ _ => true
  | _ => false

/-- Outside the wake helpers, the waits, `recvWait` and the recovery of slots. -/
def plain : Pc → Bool
  | .wakeBump _ _ | .wakeLoad _ _ | .wakeCall _ _ | .cancelOwner _ _ | .cancelBump _ _
  | .cancelLoad _ _ | .cancelWake _ _ | .sendFutexWait _ _ | .sendAsleep _ | .sendSubWaiters _
  | .recClear _ _ _ | .recFree _ _ _ | .recStat _ _ | .recGrab _ _ => false
  | pc => !pc.receives

/-- Subroutines go back to plain counters. -/
def Flat : Pc → Prop
  | .wakeBump _ next | .wakeLoad _ next | .wakeCall _ next | .releaseOwner _ next
  | .releaseState _ next | .cancelGen _ next | .cancelCas _ next | .cancelOwner _ next
  | .cancelBump _ next | .cancelLoad _ next | .cancelWake _ next => next.plain = true ∧ next.Flat
  | _ => True

/-- A counter that says nothing of its own. -/
structure Silent (pc : Pc) : Prop where
  due : pc.due = none
  unsaid : pc.unsaid = none
  registered : pc.registeredOn = none
  sleeps : pc.sleepsOn = none
  calm : pc.condemns = false
  bumps : pc.bumps = none

theorem of_plain {pc : Pc} (plain : pc.plain = true) : pc.Silent := by
  cases pc <;> first | exact ⟨rfl, rfl, rfl, rfl, rfl, rfl⟩ | cases plain

theorem receives_of_plain {pc : Pc} (plain : pc.plain = true) : pc.receives = false := by
  cases pc <;> first | rfl | cases plain

end Pc

/-- The context of a goroutine that waits on a word has not ended. -/
def Thread.live (th : Thread) : WakeWord → Bool
  | .recv => !th.ctxErr
  | .send | .slot => !th.ctxErr && !th.pastDeadline

/-! ## Continuations -/

namespace Pc

/-- A continuation of an attempt `a`: it stays in the loop of `sendWait`. -/
structure Within (a : Attempt) (pc : Pc) : Prop where
  plain : pc.plain = true
  flat : pc.Flat
  loaded : pc.loaded = a.loaded
  sends : pc.sends = true

/-- A continuation outside the loops that wait on wake words. -/
structure Outside (pc : Pc) : Prop where
  plain : pc.plain = true
  flat : pc.Flat
  loaded : pc.loaded = none
  checks : pc.checks = none

theorem within_sendFailed (a : Attempt) (noSlots : Bool) : (sendFailed a noSlots).Within a := by
  cases a <;> exact ⟨rfl, trivial, rfl, rfl⟩

theorem within_recover (s : Shm) (a : Attempt) (i : UInt32) : (recover s a i).Within a := by
  unfold recover
  split
  · exact ⟨rfl, trivial, rfl, rfl⟩
  · exact within_sendFailed a true

theorem within_scan (s : Shm) (a : Attempt) (hint i : UInt32) : (scan s a hint i).Within a := by
  unfold scan
  split
  · exact ⟨rfl, trivial, rfl, rfl⟩
  · exact within_recover s a 0

theorem within_acquired (a : Attempt) (slot gen : UInt32) (scan : Bool) :
    (acquired a slot gen scan).Within a := by
  cases scan <;> exact ⟨rfl, trivial, rfl, rfl⟩

theorem checks_acquired (a : Attempt) (slot gen : UInt32) (scan : Bool) :
    (acquired a slot gen scan).checks = none := by
  cases scan <;> rfl

theorem outside_sent {a : Attempt} {id : UInt64} (sent' : id ≠ 0) : (sent a id).Outside := by
  rw [sent, if_pos sent']
  exact ⟨rfl, trivial, rfl, rfl⟩

theorem outside_giveUp (id : UInt64) : (giveUp id).Outside := ⟨rfl, ⟨rfl, trivial⟩, rfl, rfl⟩

theorem outside_waitReturn (id : UInt64) (registered : Bool) (result : Option (List UInt8)) :
    (waitReturn id registered result).Outside := by
  cases registered <;> cases result <;> first
    | exact outside_giveUp id
    | exact ⟨rfl, trivial, rfl, rfl⟩

theorem outside_releaseOwner {id : UInt64} {next : Pc} (outside : next.Outside) :
    (Pc.releaseOwner id next).Outside :=
  ⟨rfl, ⟨outside.plain, outside.flat⟩, outside.loaded, by rw [checks, outside.checks]; rfl⟩

theorem outside_readNext (id : UInt64) (registered : Bool) (length : Nat) (result : List UInt8) :
    (readNext id registered length result).Outside := by
  unfold readNext
  split
  · exact ⟨rfl, trivial, rfl, rfl⟩
  · exact outside_releaseOwner (outside_waitReturn ..)

theorem outside_writeNext (id : UInt64) (response : List UInt8) (k : Nat) :
    (writeNext id response k).Outside := by
  unfold writeNext
  split <;> exact ⟨rfl, trivial, rfl, rfl⟩

end Pc

/-! ## The two waits -/

/-- The loops that wait on a wake word: `sendWait`, for a slot or for the queue, and
`recvWait`. -/
inductive Waiter where
  | send (noSlots : Bool)
  | recv
  deriving DecidableEq, Repr

namespace Waiter

/-- The word that the loop waits on. -/
def word : Waiter → WakeWord
  | .send noSlots => sendWord noSlots
  | .recv => .recv

/-- Before the load of the word. -/
def load : Waiter → Pc
  | .send noSlots => .sendLoadSeq noSlots
  | .recv => .recvLoadSeq

/-- After it. -/
def again : Waiter → UInt32 → Pc
  | .send noSlots, fseq => .acqHint (.second noSlots fseq)
  | .recv, fseq => .recvTry (.second fseq)

/-- Before the increment of the count of waiters. -/
def add : Waiter → UInt32 → Pc
  | .send noSlots, fseq => .sendAddWaiters noSlots fseq
  | .recv, fseq => .recvAddWaiters fseq

/-- Before the `futexWait`. -/
def wait : Waiter → UInt32 → Pc
  | .send noSlots, fseq => .sendFutexWait noSlots fseq
  | .recv, fseq => .recvFutexWait fseq

/-- In it. -/
def asleep : Waiter → Pc
  | .send noSlots => .sendAsleep noSlots
  | .recv => .recvAsleep

/-- Before the decrement of the count. -/
def sub : Waiter → Pc
  | .send noSlots => .sendSubWaiters noSlots
  | .recv => .recvSubWaiters

/-- Before the look at the context. -/
def err : Waiter → Pc
  | .send _ => .sendErr
  | .recv => .recvErrAfter

end Waiter

/-! ## Steps -/

variable {n : Nat} {S : Setup n} {c c' : Cfg n} {t : Fin n}

/-- The value of a wake word. -/
def Cfg.seq (c : Cfg n) (w : WakeWord) : UInt32 := c.mem.u32 w.futex

/-- Its count of waiters. -/
def Cfg.waiting (c : Cfg n) (w : WakeWord) : UInt32 := c.mem.u32 w.waiters

/-- Slot `i` is FREE. -/
def Cfg.free (c : Cfg n) (i : UInt32) : Bool := c.state i = layoutRespFree

/-- The same goroutines, words, queue and free slots. -/
structure Cfg.Agrees (c c₀ : Cfg n) : Prop where
  thr : c₀.thr = c.thr
  seq : c₀.seq = c.seq
  waiting : c₀.waiting = c.waiting
  pending : c₀.pending = c.pending
  free : c₀.free = c.free

/-- A step of a goroutine to `pc` in which it stays in or out of the wake helpers
and the waits. It leaves a loop only when its context has ended. -/
structure Glides (th : Thread) (pc : Pc) : Prop where
  silent : th.pc.bumps = none
  useless : th.pc.uses = false
  due : pc.due = th.pc.due
  unsaid : pc.unsaid = th.pc.unsaid
  registered : pc.registeredOn = th.pc.registeredOn
  awake : pc.sleepsOn = none
  loaded : pc.loaded = th.pc.loaded ∨ pc.loaded = none
  checks : pc.checks = th.pc.checks ∨ pc.checks = none
  stays : ∀ w, th.pc.loops w = true → pc.loops w = true ∨ pc = .idle ∧ th.live w = false
  enters : pc.receives = true → th.pc.receives = true
  calm : pc.condemns = false

/-- What the operation of goroutine `t` does to the wake words and to what they
tell of. -/
inductive Signals (S : Setup n) (c : Cfg n) (t : Fin n) (woken : List (Fin n)) (c' : Cfg n) :
    Prop where
  | quiet (c₀ : Cfg n) (pc : Pc) (agrees : c.Agrees c₀) (glides : Glides (c.thr t) pc)
      (now : c' = c₀.goto t pc)
  /-- A `futexWake` on the state of a slot. -/
  | wakes (i : UInt32) (k : Nat) (c₀ : Cfg n) (pc : Pc)
      (woke : c.futexWake S (.respSlotState i) k woken = some c₀) (glides : Glides (c.thr t) pc)
      (now : c' = c₀.goto t pc)
  | load (s : Waiter) (here : (c.thr t).pc = s.load) (now : c' = c.goto t (s.again (c.seq s.word)))
  | bump (w : WakeWord) (next : Pc) (here : (c.thr t).pc = .wakeBump w next)
      (now : c' = (c.store w.futex (c.seq w + 1)).goto t (.wakeLoad w next))
  | quit (w : WakeWord) (next : Pc) (here : (c.thr t).pc = .wakeLoad w next)
      (none : c.waiting w = 0) (now : c' = c.goto t next)
  | call (w : WakeWord) (next : Pc) (c₀ : Cfg n) (here : (c.thr t).pc = .wakeCall w next)
      (woke : c.futexWake S w.futex 1 woken = some c₀) (now : c' = c₀.goto t next)
  | join (s : Waiter) (f : UInt32) (here : (c.thr t).pc = s.add f)
      (now : c' = (c.store s.word.waiters (c.waiting s.word + 1)).goto t (s.wait f))
  | wait (s : Waiter) (f : UInt32) (here : (c.thr t).pc = s.wait f)
      (now : c' = c.futexWait t s.word.futex f s.asleep)
  | leave (s : Waiter) (here : (c.thr t).pc = s.sub)
      (now : c' = (c.store s.word.waiters (c.waiting s.word - 1)).goto t s.err)
  | enqueue (a : Attempt) (id : UInt64) (c₀ : Cfg n) (here : (c.thr t).pc = .send a id)
      (room : c.pending.length < S.shm.reqCap.toNat)
      (agrees : { c with pending := c.pending ++ [id] }.Agrees c₀)
      (now : c' = c₀.goto t (.wakeBump .recv (.sent a id)))
  | refuse (a : Attempt) (id : UInt64) (c₀ : Cfg n) (here : (c.thr t).pc = .send a id)
      (refused : ∃ w, (sendLocked S.shm (c.thr t).req (idSlot id) (idGen id)).run c.mem =
        some (false, w))
      (agrees : c.Agrees c₀) (now : c' = c₀.goto t (.releaseOwner id (.sendFailed a false)))
  | dequeue (a : RecvAttempt) (id : UInt64) (c₀ : Cfg n) (here : (c.thr t).pc = .recvTry a)
      (first : c.pending = id :: c.pending.tail)
      (agrees : { c with pending := c.pending.tail }.Agrees c₀)
      (now : c' = c₀.goto t (.wakeBump .send (.handle id)))
  | empty (a : RecvAttempt) (c₀ : Cfg n) (here : (c.thr t).pc = .recvTry a)
      (none : c.pending = []) (agrees : c.Agrees c₀) (now : c' = c₀.goto t (.recvFailed a))
  /-- The first pass begins. -/
  | scan (a : Attempt) (here : (c.thr t).pc = .acqHint a)
      (now : c' = c.goto t (.scan S.shm a (c.mem.u32 .hdrRespHint) 0))
  /-- The first pass goes on. -/
  | pass (a : Attempt) (hint i : UInt32) (here : (c.thr t).pc = .acqCas a hint i)
      (busy : c.free ((hint + i) % S.shm.respSlots) = false)
      (now : c' = c.goto t (.scan S.shm a hint (i + 1)))
  | take (a : Attempt) (hint i : UInt32) (here : (c.thr t).pc = .acqCas a hint i)
      (was : c.free ((hint + i) % S.shm.respSlots) = true)
      (now : c' = (c.setState ((hint + i) % S.shm.respSlots) layoutRespAcquired (some t)).goto t
        (.acqOwner a ((hint + i) % S.shm.respSlots) true))
  /-- The second pass goes on, or ends. -/
  | recover (a : Attempt) (i : UInt32) (here : (c.thr t).pc.recovering = some a)
      (now : c' = c.goto t (.recover S.shm a i))
  | release (id : UInt64) (next : Pc) (here : (c.thr t).pc = .releaseState id next)
      (now : c' = (c.setState (idSlot id) layoutRespFree none).goto t (.wakeBump .slot next))
  | cancel (id : UInt64) (next : Pc) (here : (c.thr t).pc = .cancelCas id next)
      (now : c' = ((c.setState (idSlot id) layoutRespFree none).note (.ended id)).goto t
        (.cancelOwner id next))
  /-- The recovery of a slot whose owner is taken for dead. -/
  | condemn (c₀ : Cfg n) (pc : Pc)
      (gone : (∃ pid, c.dead pid = true) ∨ (c.thr t).pc.condemns = true)
      (thr : c₀.thr = c.thr) (seq : c₀.seq = c.seq) (waiting : c₀.waiting = c.waiting)
      (pending : c₀.pending = c.pending) (within : ∃ a, (c.thr t).pc.attempt = some a ∧
        (pc.attempt = some a ∨ pc.Within a ∨ ∃ next, pc = .wakeBump .slot next ∧ next.Within a))
      (now : c' = c₀.goto t pc)

end ReqRep
