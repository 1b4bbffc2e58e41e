import ReqRep.Mutex.Exclusion

/-!
# Wake-ups of the mutex

Without deaths, a free mutex that somebody sleeps on is looked after: an unlocker
has its `futexWake` ahead, or a locker is awake. `mutex_waiters` is what tells
the unlocker, and it counts modulo 2^32.
-/

namespace ReqRep.Mutex

variable {n : Nat} {pid : Fin n → Pid} {c c' : Cfg n} {t : Fin n} {acts : List (Act n)}

/-! ## The count of waiters -/

/-- The lockers that have registered and not yet deregistered. -/
def Cfg.registered (c : Cfg n) : Nat := Count.count Pc.registered c.pc

theorem registered_goto (c : Cfg n) (t : Fin n) (pc : Pc) :
    (c.goto t pc).registered + (c.pc t).registered.toNat = c.registered + pc.registered.toNat :=
  Count.count_update Pc.registered c.pc t pc

theorem registered_futexWake {woken : List (Fin n)} (woke : c.futexWake pid woken = some c') :
    c'.registered = c.registered := by
  refine Count.count_congr fun t => ?_
  rcases pc_futexWake (t := t) woke with same | ⟨a, tm, asleep, awake⟩
  · rw [same]
  · rw [awake, asleep]
    rfl

/-- `mutex_waiters` is the number of registered lockers modulo 2^32. -/
def Cfg.Counted (c : Cfg n) : Prop := c.waiters = UInt32.ofNat c.registered

theorem Cfg.Counted.move (counted : c.Counted) (move : Move pid c t c') : c'.Counted := by
  unfold Cfg.Counted at counted ⊢
  -- a step that neither registers nor deregisters
  have quiet : ∀ {c₀ : Cfg n} {pc}, c₀.waiters = c.waiters → c₀.registered = c.registered →
      (c₀.pc t).registered = false → pc.registered = false →
      (c₀.goto t pc).waiters = UInt32.ofNat (c₀.goto t pc).registered := by
    intro c₀ pc waiters same out out'
    have moved := registered_goto c₀ t pc
    rw [out, out'] at moved
    rw [Nat.add_right_cancel moved, same, ← counted]
    exact waiters
  cases move with
  | take a free tries apart calm => exact quiet rfl rfl apart rfl
  | release a holds => exact quiet rfl rfl (by rw [holds]; rfl) rfl
  | recover l tm calls => exact quiet rfl rfl (by rw [calls]; rfl) rfl
  | walk waiters recoveries pc free walks counts keeps =>
    have moved := congrArg UInt32.ofNat (registered_goto c t pc)
    rw [UInt32.ofNat_add, UInt32.ofNat_add, ← counted] at moved
    exact (UInt32.add_left_inj _).mp (counts.trans moved.symm)
  | wake woken c₀ pc woke calls apart apart' keeps =>
    refine quiet (words_futexWake woke).2.1 (registered_futexWake woke) ?_ apart'
    rcases pc_futexWake (t := t) woke with same | ⟨a, tm, asleep, -⟩
    · rw [same]
      exact apart
    · rw [asleep] at apart
      cases apart

/-- A step keeps `mutex_waiters` the number of registered goroutines. -/
theorem Cfg.Counted.step {act : Act n} (counted : c.Counted)
    (stepped : c.step pid act = some c') : c'.Counted := by
  rcases step_moves stepped with ⟨t, -, -, move⟩ | ⟨p, -, rfl⟩
  · exact counted.move move
  · exact counted

theorem fresh_counted : (fresh n).Counted := by
  have none : (fresh n).registered = 0 := Count.count_eq_zero.mpr fun _ => rfl
  rw [Cfg.Counted, none]
  rfl

/-- An unlocker that sees no waiter leaves nobody asleep. -/
theorem Cfg.Counted.nobody_asleep (counted : c.Counted) (few : c.registered < 2 ^ 32)
    (none : c.waiters = 0) : (c.pc t).place ≠ .asleep := by
  intro asleep
  have zero : c.registered = 0 := by
    have same := congrArg UInt32.toNat (counted.symm.trans none)
    rw [UInt32.toNat_ofNat', Nat.mod_eq_of_lt few] at same
    exact same
  obtain ⟨a, tm, here⟩ := Pc.eq_of_place_asleep asleep
  have out := Count.count_eq_zero.mp zero t
  rw [here] at out
  cases out

/-! ## Who looks after the sleepers -/

/-- Some unlocker is before the end of its `futexWake`, or some locker is awake. -/
def Cfg.Attended (c : Cfg n) : Prop :=
  ∃ t, (c.pc t).place = .leaving ∨ (c.pc t).place = .trying

/-- Sleepers of a free mutex are looked after. -/
structure Attends (c : Cfg n) : Prop where
  alive : ∀ p, c.dead p = false
  knows : ∀ t, (c.pc t).Knows c.dead
  attended : c.mutex = 0 → ∀ t, (c.pc t).place = .asleep → c.Attended

theorem fresh_attends : Attends (fresh n) where
  alive _ := rfl
  knows _ := trivial
  attended _ _ asleep := nomatch asleep

/-- A `futexWake` finds a sleeper, if there is one. -/
theorem wakes_one {woken : List (Fin n)} (woke : c.futexWake pid woken = some c')
    (alive : ∀ p, c.dead p = false) (asleep : (c.pc t).place = .asleep) :
    ∃ t', (c.pc t').place = .asleep ∧ (c'.pc t').place = .trying := by
  unfold Cfg.futexWake at woke
  split at woke <;> cases woke
  next valid =>
  have sleeper : ∀ t', t' ∈ c.sleepers pid ↔ Cfg.asleep (c.pc t') = true := by
    intro t'
    simp [Cfg.sleepers, alive]
  have someone : t ∈ c.sleepers pid := by
    obtain ⟨a, tm, here⟩ := Pc.eq_of_place_asleep asleep
    rw [sleeper, here]
    rfl
  have one : woken.length = 1 := by
    have := List.length_pos_of_mem someone
    rw [valid.2]
    omega
  obtain ⟨t', rfl⟩ := List.length_eq_one_iff.mp one
  have found := (sleeper t').mp (valid.1 t' List.mem_cons_self)
  cases here : c.pc t' with
  | lockAsleep a tm => exact ⟨t', by rw [here]; rfl, by simp [here, Cfg.awake, Pc.place]⟩
  | _ =>
    rw [here] at found
    cases found

/-- As long as less than 2^32 goroutines are registered, a step leaves no sleeper without
somebody who attends to it. -/
theorem Attends.step (before : Attends c) (counted : c.Counted) (few : c.registered < 2 ^ 32)
    {act : Act n} (acts : act.thread.isSome) (stepped : c.step pid act = some c') :
    Attends c' := by
  rcases step_moves stepped with ⟨t, -, -, move⟩ | ⟨p, rfl, -⟩
  swap
  · cases acts
  refine ⟨?_, move.knows before.knows, fun free t' asleep => ?_⟩
  · rw [move.dead_eq]
    exact before.alive
  cases move with
  | take a _ tries apart calm => exact absurd free (mutexWord_ne_zero (pid t))
  | release a holds => exact ⟨t, .inl (by rw [Cfg.goto_self]; rfl)⟩
  | recover l tm calls =>
    have dead := before.knows t
    rw [calls] at dead
    have alive := before.alive (c.mutex &&& layoutMutexPidMask)
    rw [dead.2] at alive
    cases alive
  | walk waiters recoveries pc holds walks counts keeps =>
    cases walks with
    | stay same =>
      have places : ∀ u, (({ c with waiters := waiters, recoveries := recoveries } : Cfg n).goto
          t pc |>.pc u).place = (c.pc u).place := by
        intro u
        by_cases here : u = t
        · subst here
          rw [Cfg.goto_self, same]
        · rw [Cfg.goto_of_ne _ _ here]
      rw [places] at asleep
      obtain ⟨u, attends⟩ := before.attended free t' asleep
      exact ⟨u, by rwa [places]⟩
    | start outside tries | rouse asleep tries => exact ⟨t, .inr (by rwa [Cfg.goto_self])⟩
    | sleep a tm waits sleeps =>
      have held := before.knows t
      rw [waits] at held
      exact absurd free held
    | leave leaves outside alone =>
      by_cases here : t' = t
      · subst here
        rw [Cfg.goto_self, outside] at asleep
        cases asleep
      · rw [Cfg.goto_of_ne _ _ here] at asleep
        exact absurd asleep (counted.nobody_asleep few alone)
  | wake woken c₀ pc woke calls apart apart' keeps =>
    have awake : (c.pc t).place ≠ .asleep ∧ pc.place ≠ .asleep := by
      rcases calls with ⟨leaves, outside⟩ | ⟨-, awake, same⟩
      · rw [leaves, outside]
        exact ⟨nofun, nofun⟩
      · rw [same]
        exact ⟨awake, awake⟩
    have other : t' ≠ t := by
      rintro rfl
      rw [Cfg.goto_self] at asleep
      exact awake.2 asleep
    rw [Cfg.goto_of_ne _ _ other] at asleep
    have slept : (c.pc t').place = .asleep := by
      rcases pc_futexWake (t := t') woke with same | ⟨a, tm, -, up⟩
      · rwa [same] at asleep
      · rw [up] at asleep
        cases asleep
    obtain ⟨u, was, tries⟩ := wakes_one woke before.alive slept
    have ne : u ≠ t := by
      rintro rfl
      exact awake.1 was
    exact ⟨u, .inr (by rwa [Cfg.goto_of_ne _ _ ne])⟩

/-! ## The way to the CAS -/

/-- Goroutine `t`, if it runs alone, acquires the mutex. -/
def Cfg.WillAcquire (pid : Fin n → Pid) (c : Cfg n) (t : Fin n) : Prop :=
  ∃ k c', c.steps pid (List.replicate k (.run t {})) = some c' ∧ (c'.pc t).place = .inside

theorem Cfg.WillAcquire.of_step (stepped : c.step pid (.run t {}) = some c')
    (later : c'.WillAcquire pid t) : c.WillAcquire pid t := by
  obtain ⟨k, c₁, ran, inside⟩ := later
  refine ⟨k + 1, c₁, ?_, inside⟩
  rw [List.replicate_succ]
  exact Option.bind_eq_some_iff.mpr ⟨c', stepped, ran⟩

/-- The mutex is free, nobody is dead, and `t` is at `pc`. -/
structure FreeAt (c : Cfg n) (t : Fin n) (pc : Pc) : Prop where
  alive : ∀ p, c.dead p = false
  free : c.mutex = 0
  here : c.pc t = pc

theorem FreeAt.goto {pc : Pc} (at₀ : FreeAt c t pc) (waiters : UInt32) (pc' : Pc) :
    FreeAt ({ c with waiters := waiters }.goto t pc') t pc' :=
  ⟨at₀.alive, at₀.free, Cfg.goto_self ..⟩

theorem FreeAt.step {pc : Pc} (at₀ : FreeAt c t pc) : c.step pid (.run t {}) = c.run pid t {} := by
  simp [Cfg.step, Act.thread, at₀.alive]

theorem acquire_cas (a : Caller) (ran : c.run pid t {} =
      some ({ c with mutex := mutexWord (pid t) }.goto t (.locked a)))
    (alive : c.step pid (.run t {}) = c.run pid t {}) : c.WillAcquire pid t := by
  refine ⟨1, _, Option.bind_eq_some_iff.mpr ⟨_, alive.trans ran, rfl⟩, ?_⟩
  rw [Cfg.goto_self]
  rfl

theorem acquire_spin {a : Caller} {tm : Timeouts} {k : Nat} (at₀ : FreeAt c t (.lockSpin a tm k)) :
    c.WillAcquire pid t :=
  acquire_cas a (by simp [Cfg.run, at₀.here, at₀.free]) at₀.step

theorem acquire_sub {a : Caller} {tm : Timeouts} (at₀ : FreeAt c t (.lockSub a tm)) :
    c.WillAcquire pid t := by
  have next := at₀.goto (c.waiters - 1) (.lockRetry a tm)
  have acquires : Cfg.WillAcquire pid _ t := acquire_cas a
    (by simp [Cfg.run, next.free]) next.step
  exact acquires.of_step (at₀.step.trans (by simp only [Cfg.run, at₀.here]))

theorem acquire_load {a : Caller} {tm : Timeouts} (at₀ : FreeAt c t (.lockLoad a tm)) :
    c.WillAcquire pid t := by
  have free : ¬ c.mutex ≠ 0 := not_not.mpr at₀.free
  exact .of_step (at₀.step.trans (by simp only [Cfg.run, at₀.here, if_neg free]))
    (acquire_sub (at₀.goto c.waiters (.lockSub a tm)))

theorem acquire_staleLoad {a : Caller} {tm : Timeouts}
    (at₀ : FreeAt c t (.staleLoad (.mutexLock a) tm)) : c.WillAcquire pid t := by
  have low : ¬ c.mutex ≥ layoutMutexWriterBit := by
    rw [at₀.free]
    decide
  refine .of_step (at₀.step.trans ?_) (acquire_spin (at₀.goto c.waiters (.lockSpin a tm 0)))
  simp only [Cfg.run, at₀.here, if_neg low]
  rfl

/-- A locker that is awake while the mutex is free goes on to the CAS. -/
theorem will_acquire (alive : ∀ p, c.dead p = false) (knows : (c.pc t).Knows c.dead)
    (free : c.mutex = 0) (tries : (c.pc t).place = .trying) : c.WillAcquire pid t := by
  have calm := knows.not_recovers alive
  cases here : c.pc t with
  | lockSpin a tm k => exact acquire_spin ⟨alive, free, here⟩
  | lockSub a tm => exact acquire_sub ⟨alive, free, here⟩
  | lockLoad a tm => exact acquire_load ⟨alive, free, here⟩
  | lockRetry a tm =>
    have at₀ : FreeAt c t _ := ⟨alive, free, here⟩
    exact acquire_cas a (by simp [Cfg.run, here, free]) at₀.step
  | lockAdd a tm =>
    have at₀ : FreeAt c t _ := ⟨alive, free, here⟩
    exact .of_step (at₀.step.trans (by simp only [Cfg.run, here]))
      (acquire_load (at₀.goto (c.waiters + 1) (.lockLoad a tm)))
  | lockFutexWait a tm cur =>
    have at₀ : FreeAt c t _ := ⟨alive, free, here⟩
    rw [here] at knows
    have moved : c.mutex ≠ cur := fun same => knows (same ▸ free)
    exact .of_step (at₀.step.trans (by simp only [Cfg.run, here, if_neg moved]))
      (acquire_sub (at₀.goto c.waiters (.lockSub a tm)))
  | lockTimedOut a tm =>
    have at₀ : FreeAt c t _ := ⟨alive, free, here⟩
    exact .of_step (at₀.step.trans (by simp only [Cfg.run, here]))
      (acquire_staleLoad (at₀.goto (c.waiters - 1) (.staleLoad (.mutexLock a) tm)))
  | staleLoad l tm =>
    cases l with
    | mutexLock a => exact acquire_staleLoad ⟨alive, free, here⟩
    | recvWait =>
      rw [here] at tries
      cases tries
  | staleAlive l tm val =>
    cases l with
    | mutexLock a =>
      have at₀ : FreeAt c t _ := ⟨alive, free, here⟩
      rw [here] at knows
      have lives : pidAlive (val &&& layoutMutexPidMask) true = true := by simp [pidAlive]
      have reset : tm.check val true = (⟨0, 0⟩, none) := by
        simp [Timeouts.check, show val ≥ layoutMutexWriterBit from knows]
      refine .of_step (at₀.step.trans ?_) (acquire_spin (at₀.goto c.waiters (.lockSpin a ⟨0, 0⟩ 0)))
      simp [Cfg.run, here, lives, reset, Pc.checked]
    | recvWait =>
      rw [here] at tries
      cases tries
  | recoverCas l tm v | recoverStat l tm | recoverLoad l tm | recoverWake l tm =>
    rw [here] at calm
    cases calm
  | _ =>
    rw [here] at tries
    cases tries

/-! ## No wake-up is lost -/

/-- In every run without deaths in which fewer than 2^32 lockers are registered at
a time: while the mutex is free and a locker sleeps on it, an unlocker is
between its store and the end of its `futexWake`, or a locker is awake in
`mutexLock` and goes on to a CAS that succeeds if nobody is faster. And
`mutex_waiters` counts the registered lockers, modulo 2^32. -/
theorem mutex_wake_kept (ran : (fresh n).steps pid acts = some c')
    (always : Runs.Always (Cfg.step pid)
      (fun c act => act.thread.isSome = true ∧ c.registered < 2 ^ 32) (fresh n) acts) :
    (c'.mutex = 0 → ∀ t, (c'.pc t).place = .asleep →
      ∃ t', (c'.pc t').place = .leaving ∨
        (c'.pc t').place = .trying ∧ c'.WillAcquire pid t') ∧
    c'.waiters.toNat = c'.registered % 2 ^ 32 := by
  have attends : Attends c' ∧ c'.Counted := by
    refine Runs.invariant (fun c => Attends c ∧ c.Counted) ?_ ran always
      ⟨fresh_attends, fresh_counted⟩
    intro c act c' ⟨attends, counted⟩ ⟨acts, few⟩ stepped
    exact ⟨attends.step counted few acts stepped, counted.step stepped⟩
  obtain ⟨attends, counted⟩ := attends
  refine ⟨fun free t asleep => ?_, ?_⟩
  · obtain ⟨t', leaves | tries⟩ := attends.attended free t asleep
    · exact ⟨t', .inl leaves⟩
    · exact ⟨t', .inr ⟨tries, will_acquire attends.alive (attends.knows t') free tries⟩⟩
  · rw [counted]
    exact UInt32.toNat_ofNat'

/-- A locker falls asleep behind a holder, and the holder unlocks. -/
def oneSleeper : List (Act 2) :=
  [.trySend 0, .run 0 {}, .trySend 1] ++ List.replicate 35 (.run 1 {}) ++ [.run 0 {}]

theorem mutex_wake_kept_oneSleeper :
    ∃ c', (fresh 2).steps ownProcess oneSleeper = some c' ∧
      ∃ t', (c'.pc t').place = .leaving ∨
        (c'.pc t').place = .trying ∧ c'.WillAcquire ownProcess t' := by
  have ends : ((fresh 2).steps ownProcess oneSleeper).any (fun c =>
      decide (c.mutex = 0 ∧ (c.pc 1).place = .asleep)) = true := by decide +kernel
  obtain ⟨c', ran, last⟩ := (Option.any_eq_true _ _).mp ends
  obtain ⟨free, asleep⟩ := of_decide_eq_true last
  have always : Runs.Always (Cfg.step ownProcess)
      (fun c act => act.thread.isSome = true ∧ c.registered < 2 ^ 32) (fresh 2) oneSleeper := by
    decide +kernel
  exact ⟨c', ran, (mutex_wake_kept ran always).1 free 1 asleep⟩

/-! ## A crowd of lockers -/

/-- What puts a goroutine to sleep on a held mutex. -/
def fallAsleep (t : Fin n) : List (Act n) := .trySend t :: List.replicate 35 (.run t {})

/-- All rounds of the spin loop, on a mutex that is held. -/
theorem spins_held (a : Caller) (tm : Timeouts) (held : c.mutex ≠ 0)
    (alive : c.dead (pid t) = false) (j k : Nat) (total : j + k = layoutSpinLimit) :
    (c.goto t (.spin a tm k)).steps pid (List.replicate j (.run t {})) =
      some (c.goto t (.lockAdd a tm)) := by
  induction j generalizing k with
  | zero =>
    obtain rfl : k = layoutSpinLimit := by omega
    rfl
  | succ j ih =>
    have spin : Pc.spin a tm k = .lockSpin a tm k := if_pos (by omega)
    have fails : (c.goto t (.spin a tm k)).step pid (.run t {}) =
        some (c.goto t (.spin a tm (k + 1))) := by
      have held : (c.goto t (.lockSpin a tm k)).mutex ≠ 0 := held
      have alive : (c.goto t (.lockSpin a tm k)).dead (pid t) = false := alive
      rw [spin]
      simp [Cfg.step, Act.thread, alive, Cfg.run, held]
    rw [List.replicate_succ]
    exact Option.bind_eq_some_iff.mpr ⟨_, fails, ih (k + 1) (by omega)⟩

/-- A goroutine falls asleep on a mutex that is held. -/
theorem steps_fallAsleep (pid : Fin n → Pid) (held : c.mutex ≠ 0) (alive : c.dead (pid t) = false)
    (idle : c.pc t = .idle) : c.steps pid (fallAsleep t) =
      some ({ c with waiters := c.waiters + 1 }.goto t (.lockAsleep .once .start)) := by
  have called : c.step pid (.trySend t) = some (c.goto t (.spin .once .start 0)) := by
    simp [Cfg.step, Act.thread, alive, idle, Pc.lock, Pc.spin, layoutSpinLimit]
  have spins := spins_held .once .start held alive 32 0 rfl
  have adds : (c.goto t (.lockAdd .once .start)).step pid (.run t {}) =
      some ({ c with waiters := c.waiters + 1 }.goto t (.lockLoad .once .start)) := by
    simp [Cfg.step, Act.thread, alive, Cfg.run, Cfg.goto]
  have loads : ∀ w, ({ c with waiters := w }.goto t (.lockLoad .once .start)).step pid
      (.run t {}) =
        some ({ c with waiters := w }.goto t (.lockFutexWait .once .start c.mutex)) := by
    intro w
    simp [Cfg.step, Act.thread, alive, Cfg.run, Cfg.goto, held]
  have waits : ∀ w, ({ c with waiters := w }.goto t (.lockFutexWait .once .start c.mutex)).step pid
      (.run t {}) = some ({ c with waiters := w }.goto t (.lockAsleep .once .start)) := by
    intro w
    simp [Cfg.step, Act.thread, alive, Cfg.run, Cfg.goto]
  rw [fallAsleep, Cfg.steps, Runs.run, called, Option.bind_some,
    show List.replicate 35 (Act.run t {}) = List.replicate 32 (.run t {}) ++
      [.run t {}, .run t {}, .run t {}] from rfl, Runs.run_append]
  rw [Cfg.steps] at spins
  rw [spins, Option.bind_some, Runs.run, adds, Option.bind_some, Runs.run, loads, Option.bind_some,
    Runs.run, waits, Option.bind_some]
  rfl

/-- Each of them falls asleep. -/
theorem steps_crowd (pid : Fin n → Pid) (ts : List (Fin n)) (distinct : ts.Nodup)
    (held : c.mutex ≠ 0)
    (alive : ∀ p, c.dead p = false) (idle : ∀ t ∈ ts, c.pc t = .idle) :
    ∃ c', c.steps pid (ts.flatMap fallAsleep) = some c' ∧ c'.mutex = c.mutex ∧
      c'.dead = c.dead ∧ c'.waiters = c.waiters + UInt32.ofNat ts.length ∧
      ∀ t, c'.pc t = if t ∈ ts then .lockAsleep .once .start else c.pc t := by
  induction ts generalizing c with
  | nil => exact ⟨c, rfl, rfl, rfl, by simp, fun t => by simp⟩
  | cons t ts ih =>
    obtain ⟨absent, distinct⟩ := List.nodup_cons.mp distinct
    have first := steps_fallAsleep pid held (alive _) (idle t List.mem_cons_self)
    have rest : ∀ t' ∈ ts, ({ c with waiters := c.waiters + 1 }.goto t
        (.lockAsleep .once .start)).pc t' = .idle := by
      intro t' member
      have ne : t' ≠ t := by
        rintro rfl
        exact absent member
      rw [Cfg.goto_of_ne _ _ ne]
      exact idle t' (List.mem_cons_of_mem _ member)
    obtain ⟨c', ran, mutex, dead, waiters, pcs⟩ := 
      ih (c := { c with waiters := c.waiters + 1 }.goto t (.lockAsleep .once .start)) distinct held
        alive rest
    refine ⟨c', ?_, mutex, dead, ?_, fun t' => ?_⟩
    · rw [Cfg.steps] at first ran ⊢
      rw [List.flatMap_cons, Runs.run_append, first]
      exact ran
    · rw [waiters, List.length_cons, Nat.add_comm ts.length, UInt32.ofNat_add, ← UInt32.add_assoc]
      rfl
    · rw [pcs t']
      by_cases same : t' = t
      · subst same
        simp [absent]
      · rw [Cfg.goto_of_ne _ _ same]
        simp [same]

/-- Goroutine 0 locks, all others fall asleep, and goroutine 0 unlocks. -/
def crowd (n : Nat) : List (Act (n + 1)) :=
  [.trySend 0, .run 0 {}] ++ ((List.finRange n).map Fin.succ).flatMap fallAsleep ++
    [.run 0 {}, .run 0 {}]

/-- Where the count of `n` lockers wraps to 0, the unlocker sees no waiter. -/
theorem steps_crowd_unlock {n : Nat} (pid : Fin (n + 1) → Pid) (wraps : UInt32.ofNat n = 0) :
    ∃ c', (fresh (n + 1)).steps pid (crowd n) = some c' ∧ c'.mutex = 0 ∧ c'.waiters = 0 ∧
      ∀ t, c'.pc t = if t = 0 then .unlocked .once else .lockAsleep .once .start := by
  let held : Cfg (n + 1) := { fresh (n + 1) with mutex := mutexWord (pid 0) }.goto 0 (.locked .once)
  have locks : (fresh (n + 1)).steps pid [.trySend 0, .run 0 {}] = some held := by
    simp [Cfg.steps, Runs.run, Cfg.step, Act.thread, fresh, Cfg.run, Pc.lock, Cfg.goto, held]
  have others : ∀ t ∈ (List.finRange n).map Fin.succ, t ≠ 0 := by
    intro t member
    obtain ⟨k, -, rfl⟩ := List.mem_map.mp member
    exact Fin.succ_ne_zero k
  have idle : ∀ t ∈ (List.finRange n).map Fin.succ, held.pc t = .idle := fun t member =>
    Cfg.goto_of_ne _ _ (others t member)
  obtain ⟨c₁, ran, mutex, dead, waiters, pcs⟩ := steps_crowd pid (c := held)
    ((List.finRange n).map Fin.succ)
    (List.Nodup.map (Fin.succ_injective n) (List.nodup_finRange n)) (mutexWord_ne_zero (pid 0))
    (fun _ => rfl) idle
  have none : c₁.waiters = 0 := by
    rw [waiters, List.length_map, List.length_finRange, wraps]
    rfl
  have alive : ∀ p, c₁.dead p = false := fun p => by rw [dead]; rfl
  have holds : c₁.pc 0 = .locked .once := by
    rw [pcs, if_neg fun member => others 0 member rfl]
    exact Cfg.goto_self ..
  have unlocks : c₁.steps pid [.run 0 {}, .run 0 {}] =
      some ({ c₁ with mutex := 0 }.goto 0 (.unlocked .once)) := by
    simp [Cfg.steps, Runs.run, Cfg.step, Act.thread, alive, Cfg.run, holds, Cfg.goto, none]
  refine ⟨{ c₁ with mutex := 0 }.goto 0 (.unlocked .once), ?_, rfl, none, fun t => ?_⟩
  · rw [Cfg.steps] at locks ran unlocks ⊢
    rw [crowd, Runs.run_append, Runs.run_append, locks, Option.bind_some, ran, Option.bind_some]
    exact unlocks
  · by_cases first : t = 0
    · rw [first, if_pos rfl]
      exact Cfg.goto_self ..
    · rw [if_neg first, Cfg.goto_of_ne _ _ first, pcs, if_pos]
      obtain ⟨k, rfl⟩ := Fin.exists_succ_eq.mpr first
      exact List.mem_map.mpr ⟨k, List.mem_finRange k, rfl⟩

/-- With 2^32 lockers the count wraps: nobody is left to wake the sleepers of the
free mutex, without any death. -/
theorem crowd_strands :
    (∀ act ∈ crowd (2 ^ 32), act.thread.isSome = true) ∧
    ∃ c', (fresh (2 ^ 32 + 1)).steps (fun _ => ⟨1, by decide, by decide⟩) (crowd (2 ^ 32)) =
        some c' ∧
      c'.mutex = 0 ∧ (∃ t, (c'.pc t).place = .asleep) ∧
      (∀ t, (c'.pc t).place ≠ .leaving ∧ (c'.pc t).place ≠ .trying) ∧
      c'.waiters = 0 ∧ c'.registered ≠ 0 := by
  refine ⟨fun act member => ?_, ?_⟩
  · simp only [crowd, fallAsleep, List.mem_append, List.mem_flatMap, List.mem_cons,
      List.mem_replicate] at member
    rcases member with ((rfl | rfl | absent) | ⟨t, -, rfl | ⟨-, rfl⟩⟩) | rfl | rfl | absent <;>
      first | rfl | cases absent
  · obtain ⟨c', ran, mutex, waiters, pcs⟩ := steps_crowd_unlock (n := 2 ^ 32)
      (fun _ => ⟨1, by decide, by decide⟩) rfl
    have asleep : ∀ t, t ≠ 0 → c'.pc t = .lockAsleep .once .start := fun t other => by
      rw [pcs, if_neg other]
    have second : (1 : Fin (2 ^ 32 + 1)) ≠ 0 := Fin.ne_of_val_ne (by decide)
    refine ⟨c', ran, mutex, ⟨1, by rw [asleep 1 second]; rfl⟩, fun t => ?_, waiters, fun none => ?_⟩
    · rw [pcs]
      split <;> exact ⟨nofun, nofun⟩
    · have registered := Count.count_eq_zero.mp none 1
      rw [asleep 1 second] at registered
      cases registered

end ReqRep.Mutex
