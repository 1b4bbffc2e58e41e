import ReqRep.Machine.Step

/-!
# Sleepers and wakers

The part of a goroutine that matters for lost wake-ups of a response slot:
whether it is counted in `resp_waiters`, sleeps on the state word, or is between
a change of the state and its `futexWake`. `Watches` lists what a step does to
these parts.
-/

namespace ReqRep

/-- A client in the futex phase of `waitResponse` is registered or asleep; a
canceller or a publisher has changed the state and not yet woken the sleepers. -/
inductive Watch where
  | off
  | registered (i : UInt32)
  | asleep (id : UInt64)
  | cancels (i : UInt32)
  | publishes (i : UInt32)
  deriving DecidableEq, Repr

/-- Counted in `resp_waiters` of slot `i`. -/
def Watch.counts (i : UInt32) : Watch → Bool
  | .registered j => j = i
  | .asleep id => idSlot id = i
  | _ => false

/-- Between a change of the state of slot `i` and its `futexWake`. -/
def Watch.wakes (i : UInt32) : Watch → Bool
  | .cancels j | .publishes j => j = i
  | _ => false

/-- The watch at a counter. Inside `releaseRespSlot` and the first steps of
`cancelRequest` it is the caller's. -/
def Pc.watch : Pc → Watch
  | .wakeBump _ next | .wakeLoad _ next | .wakeCall _ next | .releaseOwner _ next
  | .releaseState _ next | .cancelGen _ next | .cancelCas _ next => next.watch
  | .cancelOwner id _ | .cancelBump id _ | .cancelLoad id _ | .cancelWake id _ =>
    .cancels (idSlot id)
  | .waitState id | .waitGen id _ | .waitErr id _ | .waitTimeout id _ | .waitFutexWait id _
  | .waitErrAfter id | .waitLeave id _ => .registered (idSlot id)
  | .readLen id registered | .readCopy id registered _ _ =>
    if registered then .registered (idSlot id) else .off
  | .waitAsleep id => .asleep id
  | .writeLoad id | .writeWake id => .publishes (idSlot id)
  | _ => .off

variable {n : Nat} {S : Setup n} {c c' : Cfg n} {t : Fin n}

/-- The watch of goroutine `t`. -/
def Cfg.watch (c : Cfg n) (t : Fin n) : Watch := (c.thr t).pc.watch

/-- `*respSlotWaiters(slot)` of slot `i`. -/
def Cfg.waiters (c : Cfg n) (i : UInt32) : UInt32 := c.mem.u32 (.respSlotWaiters i)

/-! ## Continuations -/

@[simp] theorem watch_sendFailed (a : Attempt) (noSlots : Bool) :
    (Pc.sendFailed a noSlots).watch = .off := by
  cases a <;> rfl

@[simp] theorem watch_sent (a : Attempt) (id : UInt64) : (Pc.sent a id).watch = .off := by
  unfold Pc.sent
  split
  · rfl
  · exact watch_sendFailed a false

@[simp] theorem watch_recover (s : Shm) (a : Attempt) (i : UInt32) :
    (Pc.recover s a i).watch = .off := by
  unfold Pc.recover
  split
  · rfl
  · exact watch_sendFailed a true

@[simp] theorem watch_scan (s : Shm) (a : Attempt) (hint i : UInt32) :
    (Pc.scan s a hint i).watch = .off := by
  unfold Pc.scan
  split
  · rfl
  · exact watch_recover s a 0

@[simp] theorem watch_acquired (a : Attempt) (slot gen : UInt32) (scan : Bool) :
    (Pc.acquired a slot gen scan).watch = .off := by
  cases scan <;> rfl

@[simp] theorem watch_recvFailed (a : RecvAttempt) : (Pc.recvFailed a).watch = .off := by
  cases a <;> rfl

/-- `waitResponse` returns through the deferred decrement if it is registered. -/
@[simp] theorem watch_waitReturn (id : UInt64) (registered : Bool) (result : Option (List UInt8)) :
    (Pc.waitReturn id registered result).watch =
      if registered then .registered (idSlot id) else .off := by
  cases registered <;> cases result <;> rfl

@[simp] theorem watch_readNext (id : UInt64) (registered : Bool) (length : Nat)
    (result : List UInt8) :
    (Pc.readNext id registered length result).watch =
      if registered then .registered (idSlot id) else .off := by
  unfold Pc.readNext
  split
  · rfl
  · exact watch_waitReturn id registered (some result)

@[simp] theorem watch_writeNext (id : UInt64) (response : List UInt8) (k : Nat) :
    (Pc.writeNext id response k).watch = .off := by
  unfold Pc.writeNext
  split <;> rfl

/-! ## Steps -/

/-- What a step of goroutine `t` does to sleepers and wakers. The steps that put
to sleep, or that end a waker, change nothing else. -/
inductive Watches (S : Setup n) (c : Cfg n) (t : Fin n) (c' : Cfg n) : Prop where
  | same (watch : c'.watch = c.watch) (waiters : c'.waiters = c.waiters)
  | register (i : UInt32) (before : c.watch t = .off)
      (watch : c'.watch = Function.update c.watch t (.registered i))
      (waiters : c'.waiters = Function.update c.waiters i (c.waiters i + 1))
  | leave (i : UInt32) (before : c.watch t = .registered i)
      (watch : c'.watch = Function.update c.watch t .off)
      (waiters : c'.waiters = Function.update c.waiters i (c.waiters i - 1))
  | sleep (id : UInt64) (here : (c.thr t).pc = .waitFutexWait id (c.state (idSlot id)))
      (unready : c.state (idSlot id) ≠ layoutRespReady)
      (now : c' = c.goto t (.waitAsleep id))
  | wakeup (id : UInt64) (before : c.watch t = .asleep id)
      (watch : c'.watch = Function.update c.watch t (.registered (idSlot id)))
      (waiters : c'.waiters = c.waiters)
  | begin (i : UInt32) (w : Watch) (before : c.watch t = .off) (begins : w.wakes i)
      (watch : c'.watch = Function.update c.watch t w) (waiters : c'.waiters = c.waiters)
  | quit (i : UInt32) (before : (c.watch t).wakes i) (none : c.waiters i = 0) (pc : Pc)
      (off : pc.watch = .off) (now : c' = c.goto t pc)
  | wake (i : UInt32) (k : Nat) (woken : List (Fin n)) (c₀ : Cfg n)
      (before : c.watch t = .cancels i ∧ k = 0x7FFFFFFF ∨ c.watch t = .publishes i ∧ k = 1)
      (woke : c.futexWake S (.respSlotState i) k woken = some c₀) (pc : Pc)
      (off : pc.watch = .off) (now : c' = c₀.goto t pc)

theorem watch_setThread (c : Cfg n) (t : Fin n) (th : Thread) :
    ({ c with thr := Function.update c.thr t th } : Cfg n).watch =
      Function.update c.watch t th.pc.watch := by
  funext t'
  unfold Cfg.watch
  by_cases same : t' = t
  · subst same
    simp
  · simp [same]

theorem watch_goto (c : Cfg n) (t : Fin n) (pc : Pc) :
    (c.goto t pc).watch = Function.update c.watch t pc.watch := watch_setThread c t _

theorem waiters_store (c : Cfg n) {l : Loc32} (v : UInt32) (other : ∀ i, l ≠ .respSlotWaiters i) :
    (c.store l v).waiters = c.waiters :=
  funext fun i => if_neg (Ne.symm (other i))

theorem watch_update_self {pc pc' : Pc} (here : (c.thr t).pc = pc) (same : pc'.watch = pc.watch) :
    Function.update c.watch t pc'.watch = c.watch := by
  subst here
  rw [same]
  exact Function.update_eq_self t c.watch

/-- A step after which sleepers and wakers are the same. -/
theorem Watches.quiet {c₀ : Cfg n} {pc pc' : Pc} (here : (c.thr t).pc = pc)
    (thr : c₀.thr = c.thr) (waiters : c₀.waiters = c.waiters) (watch : pc'.watch = pc.watch) :
    Watches S c t (c₀.goto t pc') := by
  refine .same ?_ waiters
  rw [watch_goto, show c₀.watch = c.watch by unfold Cfg.watch; rw [thr]]
  exact watch_update_self here watch

/-- Only those who are asleep on the state of a slot change when it is woken. -/
theorem watch_futexWake {l : Loc32} {k : Nat} {woken : List (Fin n)}
    (woke : c.futexWake S l k woken = some c') :
    c'.waiters = c.waiters ∧ ∀ t, c'.watch t =
      if t ∈ woken then (c.thr t).pc.awake.watch else c.watch t := by
  unfold Cfg.futexWake at woke
  split at woke
  · obtain rfl := Option.some.inj woke
    refine ⟨rfl, fun t => ?_⟩
    unfold Cfg.watch
    dsimp only
    split <;> rfl
  · cases woke

/-- Waking goroutines on another word changes nothing. -/
theorem watch_futexWake_other {l : Loc32} {k : Nat} {woken : List (Fin n)}
    (other : ∀ i, l ≠ .respSlotState i) (woke : c.futexWake S l k woken = some c') :
    c'.watch = c.watch ∧ c'.waiters = c.waiters := by
  have asleep := woke
  unfold Cfg.futexWake at asleep
  split at asleep
  · next valid =>
    obtain ⟨waiters, watch⟩ := watch_futexWake woke
    refine ⟨funext fun t => ?_, waiters⟩
    rw [watch t]
    split
    · next member =>
      have found := valid.2.1 t member
      simp only [Cfg.sleepers, List.mem_filter] at found
      have on := (of_decide_eq_true found.2).1
      unfold Cfg.watch
      cases here : (c.thr t).pc <;> rw [here] at on <;> first | rfl | cases on
      exact absurd rfl (other _)
    · rfl
  · cases asleep

end ReqRep
