import ReqRep.Mutex.Machine

/-!
# What a step of the mutex machine does

A goroutine is outside, tries to lock, sleeps, holds the mutex, or has just
released it. One inversion says what every step does to the words and to the
places; the invariants follow from it.
-/

namespace ReqRep.Mutex

/-! ## Places -/

/-- Where a goroutine is, as the mutex goes. -/
inductive Place where
  | outside
  /-- Awake inside `mutexLock`. -/
  | trying
  | asleep
  /-- Between the CAS of `mutexLock` and the store of `mutexUnlock`. -/
  | inside
  /-- Between the store of `mutexUnlock` and the end of its `futexWake`. -/
  | leaving
  deriving DecidableEq, Repr

/-- Where the loop that checks for a stale mutex is. -/
def Loop.place : Loop → Place
  | .mutexLock _ => .trying
  | .recvWait => .outside

namespace Pc

/-- The place of a counter. -/
def place : Pc → Place
  | .idle | .unlocked _ | .recvFutexWait _ | .recvErr _ => .outside
  | .lockSpin _ _ _ | .lockAdd _ _ | .lockLoad _ _ | .lockFutexWait _ _ _ | .lockSub _ _
  | .lockRetry _ _ | .lockTimedOut _ _ => .trying
  | .lockAsleep _ _ => .asleep
  | .staleLoad l _ | .staleAlive l _ _ | .recoverCas l _ _ | .recoverStat l _
  | .recoverLoad l _ | .recoverWake l _ => l.place
  | .locked _ => .inside
  | .unlockLoad _ | .unlockWake _ => .leaving

/-- A locker that has incremented `mutex_waiters` and not yet decremented it. -/
def registered : Pc → Bool
  | .lockLoad _ _ | .lockFutexWait _ _ _ | .lockAsleep _ _ | .lockSub _ _
  | .lockTimedOut _ _ => true
  | _ => false

/-- What a goroutine has added to `mutex_waiters`. -/
def share (pc : Pc) : UInt32 := UInt32.ofNat pc.registered.toNat

/-- `recoverStaleMutex`. -/
def recovers : Pc → Bool
  | .recoverCas _ _ _ | .recoverStat _ _ | .recoverLoad _ _ | .recoverWake _ _ => true
  | _ => false

/-- What a goroutine knows of the values that it carries. -/
def Knows (dead : UInt32 → Bool) : Pc → Prop
  | .lockFutexWait _ _ cur => cur ≠ 0
  | .staleAlive _ _ val => val ≥ layoutMutexWriterBit
  | .recoverCas _ _ observed =>
    observed ≥ layoutMutexWriterBit ∧ dead (observed &&& layoutMutexPidMask) = true
  | .recoverStat _ _ | .recoverLoad _ _ | .recoverWake _ _ => ∃ p, dead p = true
  | _ => True

/-- Nobody recovers a mutex before a process dies. -/
theorem Knows.not_recovers {pc : Pc} {dead : UInt32 → Bool} (knows : pc.Knows dead)
    (alive : ∀ p, dead p = false) : pc.recovers = false := by
  cases pc with
  | recoverCas l tm observed => simp [Knows, alive] at knows
  | recoverStat l tm | recoverLoad l tm | recoverWake l tm =>
    obtain ⟨p, dead⟩ := knows
    rw [alive] at dead
    cases dead
  | _ => rfl

theorem eq_of_place_inside {pc : Pc} (inside : pc.place = .inside) : ∃ a, pc = .locked a := by
  cases pc with
  | locked a => exact ⟨a, rfl⟩
  | staleLoad l _ | staleAlive l _ _ | recoverCas l _ _ | recoverStat l _ | recoverLoad l _
  | recoverWake l _ => cases l <;> cases inside
  | _ => cases inside

theorem eq_of_place_asleep {pc : Pc} (asleep : pc.place = .asleep) :
    ∃ a tm, pc = .lockAsleep a tm := by
  cases pc with
  | lockAsleep a tm => exact ⟨a, tm, rfl⟩
  | staleLoad l tm | staleAlive l tm v | recoverCas l tm v | recoverStat l tm | recoverLoad l tm
  | recoverWake l tm => cases l <;> cases asleep
  | _ => cases asleep

@[simp] theorem place_lock (a : Caller) : (lock a).place = .trying := rfl
@[simp] theorem registered_lock (a : Caller) : (lock a).registered = false := rfl

@[simp] theorem place_spin (a : Caller) (tm : Timeouts) (k : Nat) :
    (spin a tm k).place = .trying := by
  unfold spin
  split <;> rfl

@[simp] theorem registered_spin (a : Caller) (tm : Timeouts) (k : Nat) :
    (spin a tm k).registered = false := by
  unfold spin
  split <;> rfl

@[simp] theorem place_checked (tm : Timeouts) (l : Loop) : (checked tm l).place = l.place := by
  cases l <;> rfl

@[simp] theorem registered_checked (tm : Timeouts) (l : Loop) :
    (checked tm l).registered = false := by
  cases l <;> rfl

theorem place_returned (ok : Bool) (a : Caller) :
    (returned ok a).place = .outside ∨ (returned ok a).place = .trying := by
  unfold returned
  cases a with
  | once => exact .inl rfl
  | recvWait attempt tm =>
    cases ok with
    | true => exact .inl rfl
    | false =>
      cases attempt with
      | first | third => exact .inr rfl
      | second => exact .inl rfl

@[simp] theorem registered_returned (ok : Bool) (a : Caller) :
    (returned ok a).registered = false := by
  unfold returned
  cases a with
  | once => rfl
  | recvWait attempt tm => cases ok <;> cases attempt <;> rfl

variable {dead : UInt32 → Bool}

theorem knows_spin (a : Caller) (tm : Timeouts) (k : Nat) : (spin a tm k).Knows dead := by
  unfold spin
  split <;> trivial

theorem knows_checked (tm : Timeouts) (l : Loop) : (checked tm l).Knows dead := by
  cases l <;> trivial

theorem knows_returned (ok : Bool) (a : Caller) : (returned ok a).Knows dead := by
  unfold returned
  cases a with
  | once => trivial
  | recvWait attempt tm => cases ok <;> cases attempt <;> trivial

/-- Nobody comes back to life. -/
theorem Knows.die {pc : Pc} (knows : pc.Knows dead) (pid : UInt32) :
    pc.Knows (Function.update dead pid true) := by
  have stays : ∀ {p}, dead p = true → Function.update dead pid true p = true := by
    intro p died
    by_cases same : p = pid
    · rw [same, Function.update_self]
    · rwa [Function.update_of_ne same]
  cases pc with
  | recoverCas l tm observed => exact ⟨knows.1, stays knows.2⟩
  | recoverStat l tm | recoverLoad l tm | recoverWake l tm =>
    obtain ⟨p, died⟩ := knows
    exact ⟨p, stays died⟩
  | _ => exact knows

end Pc

/-! ## Moves -/

variable {n : Nat} {pid : Fin n → Pid} {c c' : Cfg n} {t : Fin n}

/-- How a goroutine that keeps the mutex word changes its place. -/
inductive Walk (c : Cfg n) (here there : Pc) : Prop where
  | stay (same : there.place = here.place)
  | start (outside : here.place = .outside) (tries : there.place = .trying)
  | sleep (a : Caller) (tm : Timeouts) (waits : here = .lockFutexWait a tm c.mutex)
      (sleeps : there = .lockAsleep a tm)
  | rouse (asleep : here.place = .asleep) (tries : there.place = .trying)
  | leave (leaves : here.place = .leaving) (outside : there.place = .outside)
      (alone : c.waiters = 0)

/-- What goroutine `t` does in one of its steps. -/
inductive Move (pid : Fin n → Pid) (c : Cfg n) (t : Fin n) : Cfg n → Prop where
  | take (a : Caller) (free : c.mutex = 0) (tries : (c.pc t).place = .trying)
      (apart : (c.pc t).registered = false) (calm : (c.pc t).recovers = false) :
      Move pid c t ({ c with mutex := mutexWord (pid t) }.goto t (.locked a))
  | release (a : Caller) (holds : c.pc t = .locked a) :
      Move pid c t ({ c with mutex := 0 }.goto t (.unlockLoad a))
  | recover (l : Loop) (tm : Timeouts) (calls : c.pc t = .recoverCas l tm c.mutex) :
      Move pid c t ({ c with mutex := 0 }.goto t (.recoverStat l tm))
  | walk (waiters recoveries : UInt32) (pc : Pc) (free : (c.pc t).place ≠ .inside)
      (walks : Walk c (c.pc t) pc)
      (counts : waiters + (c.pc t).share = c.waiters + pc.share)
      (knows : (c.pc t).Knows c.dead → pc.Knows c.dead) :
      Move pid c t ({ c with waiters := waiters, recoveries := recoveries }.goto t pc)
  | wake (woken : List (Fin n)) (c₀ : Cfg n) (pc : Pc) (woke : c.futexWake pid woken = some c₀)
      (calls : (c.pc t).place = .leaving ∧ pc.place = .outside ∨
        (c.pc t).place ≠ .inside ∧ (c.pc t).place ≠ .asleep ∧ pc.place = (c.pc t).place)
      (apart : (c.pc t).registered = false) (apart' : pc.registered = false)
      (knows : pc.Knows c.dead) :
      Move pid c t (c₀.goto t pc)

/-- Whom the check after a timeout has recovered. -/
theorem check_eq_some {tm tm' : Timeouts} {val observed : UInt32} {alive : Bool}
    (checks : tm.check val alive = (tm', some observed)) : alive = false ∧ observed = val := by
  unfold Timeouts.check at checks
  split at checks
  · cases alive with
    | true => simp at checks
    | false =>
      simp only [Bool.not_false, if_true] at checks
      split at checks <;> split at checks <;> injection checks with _ same
      · exact ⟨rfl, (Option.some.inj same).symm⟩
      · cases same
      · exact ⟨rfl, (Option.some.inj same).symm⟩
      · cases same
  · simp at checks

/-- An operation of a goroutine is one of its moves. -/
theorem run_moves {ans : Answer n} (ran : c.run pid t ans = some c') : Move pid c t c' := by
  -- a step that only moves the goroutine
  have goes : ∀ {pc}, some (c.goto t pc) = some c' → (c.pc t).place ≠ .inside →
      Walk c (c.pc t) pc → pc.registered = (c.pc t).registered →
      ((c.pc t).Knows c.dead → pc.Knows c.dead) → Move pid c t c' := by
    intro pc ends free walks same knows
    obtain rfl := Option.some.inj ends
    exact .walk c.waiters c.recoveries pc free walks (by rw [Pc.share, Pc.share, same]) knows
  have stays : ∀ {pc}, some (c.goto t pc) = some c' → (c.pc t).place ≠ .inside →
      pc.place = (c.pc t).place → pc.registered = (c.pc t).registered → pc.Knows c.dead →
      Move pid c t c' := fun ends free same same' knows =>
    goes ends free (.stay same) same' fun _ => knows
  have woke : ∀ {woken pc}, (c.futexWake pid woken).map (·.goto t pc) = some c' →
      ((c.pc t).place = .leaving ∧ pc.place = .outside ∨
        (c.pc t).place ≠ .inside ∧ (c.pc t).place ≠ .asleep ∧ pc.place = (c.pc t).place) →
      (c.pc t).registered = false → pc.registered = false → pc.Knows c.dead →
      Move pid c t c' := by
    intro woken pc mapped calls apart apart' knows
    obtain ⟨c₀, woke, rfl⟩ := Option.map_eq_some_iff.mp mapped
    exact .wake woken c₀ pc woke calls apart apart' knows
  have inside : ∀ l : Loop, l.place ≠ .inside := by
    intro l
    cases l <;> simp [Loop.place]
  have asleep : ∀ l : Loop, l.place ≠ .asleep := by
    intro l
    cases l <;> simp [Loop.place]
  have checks : ∀ {l tm}, some (c.goto t (.checked tm l)) = some c' → (c.pc t).place = l.place →
      (c.pc t).registered = false → Move pid c t c' := by
    intro l tm ends same apart
    exact stays ends (same ▸ inside l) ((Pc.place_checked tm l).trans same.symm)
      ((Pc.registered_checked tm l).trans apart.symm) (Pc.knows_checked tm l)
  cases here : c.pc t with
  | idle | lockAsleep a tm => simp [Cfg.run, here] at ran
  | lockSpin a tm k =>
    simp only [Cfg.run, here] at ran
    rw [here] at goes stays woke checks
    split at ran
    · next free =>
      obtain rfl := Option.some.inj ran
      exact .take a free (by rw [here]; rfl) (by rw [here]; rfl) (by rw [here]; rfl)
    · exact stays ran (by simp [Pc.place]) (Pc.place_spin a tm _) (Pc.registered_spin a tm _)
        (Pc.knows_spin a tm _)
  | lockRetry a tm =>
    simp only [Cfg.run, here] at ran
    rw [here] at goes stays woke checks
    split at ran
    · next free =>
      obtain rfl := Option.some.inj ran
      exact .take a free (by rw [here]; rfl) (by rw [here]; rfl) (by rw [here]; rfl)
    · exact stays ran (by simp [Pc.place]) rfl rfl trivial
  | lockAdd a tm =>
    simp only [Cfg.run, here] at ran
    obtain rfl := Option.some.inj ran
    exact .walk (c.waiters + 1) c.recoveries (.lockLoad a tm) (by rw [here]; simp [Pc.place])
      (.stay (by rw [here]; rfl)) (by rw [here]; simp [Pc.share, Pc.registered]) fun _ => trivial
  | lockSub a tm =>
    simp only [Cfg.run, here] at ran
    obtain rfl := Option.some.inj ran
    exact .walk (c.waiters - 1) c.recoveries (.lockRetry a tm) (by rw [here]; simp [Pc.place])
      (.stay (by rw [here]; rfl)) (by rw [here]; simp [Pc.share, Pc.registered]) fun _ => trivial
  | lockTimedOut a tm =>
    simp only [Cfg.run, here] at ran
    obtain rfl := Option.some.inj ran
    exact .walk (c.waiters - 1) c.recoveries (.staleLoad (.mutexLock a) tm)
      (by rw [here]; simp [Pc.place])
      (.stay (by rw [here]; rfl)) (by rw [here]; simp [Pc.share, Pc.registered]) fun _ => trivial
  | lockLoad a tm =>
    simp only [Cfg.run, here] at ran
    rw [here] at goes stays woke checks
    split at ran
    · next held => exact stays ran (by simp [Pc.place]) rfl rfl held
    · exact stays ran (by simp [Pc.place]) rfl rfl trivial
  | lockFutexWait a tm cur =>
    simp only [Cfg.run, here] at ran
    rw [here] at goes stays woke checks
    split at ran
    · next same =>
      subst same
      exact goes ran (by simp [Pc.place]) (.sleep a tm rfl rfl) rfl fun _ => trivial
    · exact stays ran (by simp [Pc.place]) rfl rfl trivial
  | staleLoad l tm =>
    simp only [Cfg.run, here] at ran
    rw [here] at goes stays woke checks
    split at ran
    · next held => exact stays ran (inside l) rfl rfl held
    · exact checks ran rfl rfl
  | staleAlive l tm val =>
    simp only [Cfg.run, here] at ran
    rw [here] at goes stays woke checks
    split at ran
    · cases ran
    next answers =>
    split at ran
    · next tm' observed calls =>
      obtain ⟨gone, rfl⟩ := check_eq_some calls
      refine goes ran (inside l) (.stay rfl) rfl fun held => ⟨held, ?_⟩
      simpa [gone] using answers
    · exact checks ran rfl rfl
  | recoverCas l tm observed =>
    simp only [Cfg.run, here] at ran
    rw [here] at goes stays woke checks
    split at ran
    · next same =>
      subst same
      obtain rfl := Option.some.inj ran
      exact .recover l tm here
    · exact checks ran rfl rfl
  | recoverStat l tm =>
    simp only [Cfg.run, here] at ran
    obtain rfl := Option.some.inj ran
    exact .walk c.waiters (c.recoveries + 1) (.recoverLoad l tm) (by rw [here]; exact inside l)
      (.stay (by rw [here]; rfl)) (by rw [here]; rfl) fun knows => by rwa [here] at knows
  | recoverLoad l tm =>
    simp only [Cfg.run, here] at ran
    rw [here] at goes stays woke checks
    split at ran
    · exact goes ran (inside l) (.stay rfl) rfl id
    · exact checks ran rfl rfl
  | recoverWake l tm =>
    simp only [Cfg.run, here] at ran
    rw [here] at goes stays woke checks
    exact woke ran (.inr ⟨inside l, asleep l, Pc.place_checked tm l⟩) rfl
      (Pc.registered_checked tm l) (Pc.knows_checked tm l)
  | locked a =>
    simp only [Cfg.run, here] at ran
    obtain rfl := Option.some.inj ran
    exact .release a here
  | unlockLoad a =>
    simp only [Cfg.run, here] at ran
    rw [here] at goes stays woke checks
    split at ran
    · exact stays ran (by simp [Pc.place]) rfl rfl trivial
    · next none =>
      have none : c.waiters = 0 := UInt32.le_zero_iff.mp (UInt32.not_lt.mp none)
      exact goes ran (by simp [Pc.place]) (.leave rfl rfl none) rfl fun _ => trivial
  | unlockWake a =>
    simp only [Cfg.run, here] at ran
    rw [here] at goes stays woke checks
    exact woke ran (.inl ⟨rfl, rfl⟩) rfl rfl trivial
  | unlocked a =>
    simp only [Cfg.run, here] at ran
    rw [here] at goes stays woke checks
    refine goes ran (by simp [Pc.place]) ?_ (Pc.registered_returned _ a)
      fun _ => Pc.knows_returned _ a
    rcases Pc.place_returned ans.received a with out | tries
    · exact .stay out
    · exact .start rfl tries
  | recvFutexWait tm =>
    simp only [Cfg.run, here] at ran
    rw [here] at goes stays woke checks
    split at ran
    · exact stays ran (by simp [Pc.place]) rfl rfl trivial
    split at ran
    · exact stays ran (by simp [Pc.place]) rfl rfl trivial
    · exact stays ran (by simp [Pc.place]) rfl rfl trivial
  | recvErr tm =>
    simp only [Cfg.run, here] at ran
    rw [here] at goes stays woke checks
    split at ran
    · exact stays ran (by simp [Pc.place]) rfl rfl trivial
    · exact goes ran (by simp [Pc.place]) (.start rfl rfl) rfl fun _ => trivial

/-- A step is a move of a live goroutine, or a death. -/
theorem step_moves {act : Act n} (stepped : c.step pid act = some c') :
    (∃ t, act.thread = some t ∧ c.dead (pid t) = false ∧ Move pid c t c') ∨
      ∃ p, act = .die p ∧ c' = { c with dead := Function.update c.dead p true } := by
  unfold Cfg.step at stepped
  split at stepped
  · cases stepped
  next alive =>
  have lives : ∀ {t}, act.thread = some t → c.dead (pid t) = false := by
    intro t acts
    simpa [acts] using alive
  have starts : ∀ {t a}, (if c.pc t = .idle then some (c.goto t (.lock a)) else none) = some c' →
      Move pid c t c' := by
    intro t a called
    split at called <;> cases called
    next idle =>
    exact .walk c.waiters c.recoveries (.lock a) (by rw [idle]; simp [Pc.place])
      (.start (by rw [idle]; rfl) rfl) (by rw [idle]; rfl) fun _ => trivial
  cases act with
  | run t ans => exact .inl ⟨t, rfl, lives rfl, run_moves stepped⟩
  | trySend t | recvWait t => exact .inl ⟨t, rfl, lives rfl, starts stepped⟩
  | wakeup t | timeout t =>
    refine .inl ⟨t, rfl, lives rfl, ?_⟩
    dsimp only at stepped
    split at stepped <;> cases stepped
    next a tm here =>
    exact .walk c.waiters c.recoveries _ (by rw [here]; simp [Pc.place])
      (.rouse (by rw [here]; rfl) rfl) (by rw [here]; rfl) fun _ => trivial
  | die p => exact .inr ⟨p, rfl, (Option.some.inj stepped).symm⟩

/-! ## Wake-ups -/

/-- Whom a `futexWake` does not wake, it leaves alone. -/
theorem pc_futexWake {woken : List (Fin n)} (woke : c.futexWake pid woken = some c') :
    c'.pc t = c.pc t ∨ ∃ a tm, c.pc t = .lockAsleep a tm ∧ c'.pc t = .lockSub a tm := by
  unfold Cfg.futexWake at woke
  split at woke <;> cases woke
  next valid =>
  by_cases member : t ∈ woken
  · have asleep := valid.1 t member
    simp only [Cfg.sleepers, List.mem_filter, Bool.and_eq_true] at asleep
    cases here : c.pc t with
    | lockAsleep a tm => exact .inr ⟨a, tm, rfl, by simp [member, here, Cfg.awake]⟩
    | _ => simp [here, Cfg.asleep] at asleep
  · exact .inl (if_neg member)

/-- A `futexWake` changes goroutines only. -/
theorem words_futexWake {woken : List (Fin n)} (woke : c.futexWake pid woken = some c') :
    c'.mutex = c.mutex ∧ c'.waiters = c.waiters ∧ c'.dead = c.dead := by
  unfold Cfg.futexWake at woke
  split at woke <;> cases woke
  exact ⟨rfl, rfl, rfl⟩

/-! ## What every move keeps -/

theorem Move.dead_eq (move : Move pid c t c') : c'.dead = c.dead := by
  cases move with
  | wake woken c₀ pc woke => exact (words_futexWake woke).2.2
  | _ => rfl

theorem Move.knows (move : Move pid c t c') (before : ∀ t, (c.pc t).Knows c.dead) :
    ∀ t, (c'.pc t).Knows c'.dead := by
  have moved : ∀ {c₀ : Cfg n} {pc}, pc.Knows c₀.dead → (∀ t', (c₀.pc t').Knows c₀.dead) →
      ∀ t', ((c₀.goto t pc).pc t').Knows (c₀.goto t pc).dead := by
    intro c₀ pc own others t'
    by_cases same : t' = t
    · subst same
      rwa [Cfg.goto_self]
    · rw [Cfg.goto_of_ne _ _ same]
      exact others t'
  cases move with
  | take a | release a => exact moved trivial before
  | recover l tm calls =>
    have dead := before t
    rw [calls] at dead
    exact moved ⟨_, dead.2⟩ before
  | walk waiters recoveries pc free walks counts keeps => exact moved (keeps (before t)) before
  | wake woken c₀ pc woke calls apart apart' keeps =>
    have dead := (words_futexWake woke).2.2
    refine moved (dead ▸ keeps) fun t' => ?_
    rw [dead]
    rcases pc_futexWake (t := t') woke with same | ⟨a, tm, -, awake⟩
    · rw [same]
      exact before t'
    · rw [awake]
      trivial

end ReqRep.Mutex
