import ReqRep.Machine.Signals
import ReqRep.Machine.Start
import ReqRep.Misc.Count

/-!
# Runs with a tally

Two histories beside a configuration: how often the wake word that a goroutine has
loaded was bumped since, and which goroutines owe a retry for the `futexWake` that
took them out of their sleep. No step reads them.
-/

namespace ReqRep

/-- A configuration, the bumps since each goroutine's load, and the retries owed. -/
structure Tally (n : Nat) where
  cfg : Cfg n
  since : Fin n → Nat
  owes : WakeWord → Fin n → Bool

variable {n : Nat} {S : Setup n} {T T' : Tally n} {c c' : Cfg n} {t u : Fin n} {w : WakeWord}

/-- The wake word that an act bumps. -/
def Cfg.bumped (c : Cfg n) : Act n → Option WakeWord
  | .run t _ => (c.thr t).pc.bumps
  | _ => none

/-- An operation with which a goroutine has used what it was woken for, has gone to
sleep on the word again, or has left: a `recvLocked`, a slot taken, a `sendLocked`
that succeeds. -/
def Pc.settles (w : WakeWord) (before after : Pc) : Bool :=
  after = .idle || after.sleepsOn = some w || match w, before, after with
    | .recv, .recvTry _, _ => true
    | .slot, .acqCas _ _ _, .acqOwner _ _ _ => true
    | .slot, .recGrab _ _, .acqOwner _ _ _ => true
    | .send, .send _ _, .wakeBump _ _ => true
    | _, _, _ => false

namespace Tally

/-- The bumps of the word that goroutine `u` has loaded, after an act. -/
def sinceAfter (T : Tally n) (act : Act n) (u : Fin n) : Nat :=
  match (T.cfg.thr u).pc.loaded with
  | none => 0
  | some (w, _) => if T.cfg.bumped act = some w then T.since u + 1 else T.since u

/-- Whether goroutine `u` owes a retry for word `w` after an act that leads to `c'`. -/
def owesAfter (T : Tally n) (c' : Cfg n) (act : Act n) (w : WakeWord) (u : Fin n) : Bool :=
  match act with
  | .run t _ =>
    if u = t then T.owes w u && !Pc.settles w (T.cfg.thr u).pc (c'.thr u).pc
    else T.owes w u || (T.cfg.thr u).pc.sleepsOn = some w && (c'.thr u).pc.sleepsOn = none
  | _ => T.owes w u

/-- A step of the machine, with its histories. -/
def step (S : Setup n) (T : Tally n) (act : Act n) : Option (Tally n) :=
  (T.cfg.step S act).map fun c' =>
    { cfg := c', since := T.sinceAfter act, owes := T.owesAfter c' act }

/-- The tally after some acts, oldest first. -/
def steps (S : Setup n) (T : Tally n) (acts : List (Act n)) : Option (Tally n) :=
  Runs.run (step S) T acts

/-- The start of a run. -/
def start (c : Cfg n) : Tally n where
  cfg := c
  since _ := 0
  owes _ _ := false

/-- The histories do not get in the way of a run. -/
theorem steps_cfg (S : Setup n) (T : Tally n) (acts : List (Act n)) :
    (T.steps S acts).map Tally.cfg = T.cfg.steps S acts := by
  refine Runs.run_map Tally.cfg (fun T act => ?_) T acts
  rw [step, Option.map_map]
  exact Option.map_id'

end Tally

/-! ## Counts -/

namespace Cfg

/-- How many goroutines are before the end of a wake helper for `w`, with what it tells of
done. -/
def dues (c : Cfg n) (w : WakeWord) : Nat :=
  Count.count (fun th : Thread => decide (th.pc.due = some w)) c.thr

/-- How many of them have the bump ahead. -/
def unsaids (c : Cfg n) (w : WakeWord) : Nat :=
  Count.count (fun th : Thread => decide (th.pc.unsaid = some w)) c.thr

/-- How many goroutines are registered as waiters. -/
def registered (c : Cfg n) (w : WakeWord) : Nat :=
  Count.count (fun th : Thread => decide (th.pc.registeredOn = some w)) c.thr

end Cfg

/-- How many goroutines have been woken and owe a retry. -/
def Tally.owing (T : Tally n) (w : WakeWord) : Nat := Count.count id (T.owes w)

/-! ## Goroutines that do not run -/

/-- What a goroutine shows is the same, but that it may have been woken or have made
a call. -/
structure Same (th th' : Thread) : Prop where
  due : th'.pc.due = th.pc.due
  unsaid : th'.pc.unsaid = th.pc.unsaid
  registered : th'.pc.registeredOn = th.pc.registeredOn
  loaded : th'.pc.loaded = th.pc.loaded
  checks : th'.pc.checks = th.pc.checks
  loops : ∀ w, th.pc.loops w = true → th'.pc.loops w = true
  calm : th'.pc.condemns = th.pc.condemns
  sleeps : th'.pc.sleepsOn = th.pc.sleepsOn ∨ th'.pc.sleepsOn = none
  flat : th.pc.Flat → th'.pc.Flat

theorem Same.of_pc {th th' : Thread} (same : th'.pc = th.pc) : Same th th' := by
  rw [show th = { th with pc := th'.pc } by rw [same]]
  exact ⟨rfl, rfl, rfl, rfl, rfl, fun _ => id, rfl, .inl rfl, id⟩

theorem same_awake {th : Thread} {l : Loc32} (asleep : th.pc.asleepOn = some l) :
    Same th { th with pc := th.pc.awake } := by
  obtain ⟨pc, req, ctxErr, pastDeadline⟩ := th
  cases pc with
  | waitAsleep _ | sendAsleep _ | recvAsleep =>
    exact ⟨rfl, rfl, rfl, rfl, rfl, fun w loops => (by cases w <;> exact loops), rfl, .inr rfl,
      fun _ => trivial⟩
  | _ => cases asleep

theorem same_call {th th' : Thread} (idle : th.pc = .idle)
    (call : th'.pc = .idle ∨ th'.pc = .acqHint .first ∨ th'.pc = .recvTry .first) :
    Same th th' := by
  obtain ⟨pc, req, ctxErr, pastDeadline⟩ := th
  obtain ⟨pc', req', ctxErr', pastDeadline'⟩ := th'
  obtain rfl : pc = .idle := idle
  rcases call with rfl | rfl | rfl
  all_goals
    exact ⟨rfl, rfl, rfl, rfl, rfl, fun w loops => (by cases w <;> cases loops), rfl, .inr rfl,
      fun _ => trivial⟩

/-- A step of the machine that is not an operation of `u`. -/
theorem step_same {act : Act n} (stepped : c.step S act = some c')
    (other : ∀ ans, act ≠ .run u ans) :
    Same (c.thr u) (c'.thr u) := by
  by_cases own : act.thread = some u
  · unfold Cfg.step at stepped
    split at stepped
    · cases stepped
    cases act with
    | run t ans =>
      obtain rfl := Option.some.inj own
      exact absurd rfl (other ans)
    | query t req =>
      obtain rfl := Option.some.inj own
      dsimp only at stepped
      split at stepped <;> cases stepped
      next idle =>
      refine same_call idle ?_
      simp only [Function.update_self]
      split
      · exact .inl rfl
      · exact .inr (.inl rfl)
    | serve t =>
      obtain rfl := Option.some.inj own
      dsimp only at stepped
      split at stepped <;> cases stepped
      next idle =>
      exact same_call idle (.inr (.inr (by simp only [Function.update_self])))
    | cancelCtx t | deadline t =>
      obtain rfl := Option.some.inj own
      cases stepped
      exact .of_pc (by simp only [Function.update_self])
    | wakeup t =>
      obtain rfl := Option.some.inj own
      dsimp only at stepped
      split at stepped <;> cases stepped
      next asleep =>
      obtain ⟨l, asleep⟩ := Option.ne_none_iff_exists'.mp asleep
      rw [goto_thr_self]
      exact same_awake asleep
    | die pid => cases own
  · rcases step_thr_of_ne stepped own with same | ⟨⟨l, asleep⟩, awake⟩
    · exact .of_pc (by rw [same])
    · rw [awake]
      exact same_awake asleep

/-- A step of the machine that is no operation touches neither memory nor queue. -/
theorem step_mem {act : Act n} (stepped : c.step S act = some c')
    (other : ∀ t ans, act ≠ .run t ans) :
    c'.mem = c.mem ∧ c'.pending = c.pending := by
  unfold Cfg.step at stepped
  split at stepped
  · cases stepped
  cases act with
  | run t ans => exact absurd rfl (other t ans)
  | cancelCtx | deadline | die =>
    cases stepped
    exact ⟨rfl, rfl⟩
  | query | serve | wakeup =>
    dsimp only at stepped
    split at stepped <;> cases stepped
    exact ⟨rfl, rfl⟩

/-! ## The words and their waiters -/

theorem waiting_store_futex (c : Cfg n) (w' : WakeWord) (v : UInt32) (w : WakeWord) :
    (c.store w'.futex v).waiting w = c.waiting w := if_neg (by cases w <;> cases w' <;> nofun)

theorem waiting_store_waiters (c : Cfg n) (w' : WakeWord) (v : UInt32) (w : WakeWord) :
    (c.store w'.waiters v).waiting w = if w = w' then v else c.waiting w := by
  cases w <;> cases w' <;> rfl

theorem seq_store_futex (c : Cfg n) (w' : WakeWord) (v : UInt32) (w : WakeWord) :
    (c.store w'.futex v).seq w = if w = w' then v else c.seq w := by
  cases w <;> cases w' <;> rfl

theorem seq_store_waiters (c : Cfg n) (w' : WakeWord) (v : UInt32) (w : WakeWord) :
    (c.store w'.waiters v).seq w = c.seq w := if_neg (by cases w <;> cases w' <;> nofun)

/-- A `futexWake` leaves the words alone. -/
theorem words_futexWake {l : Loc32} {k : Nat} {woken : List (Fin n)}
    (woke : c.futexWake S l k woken = some c') : c'.seq = c.seq ∧ c'.waiting = c.waiting := by
  have same := mem_futexWake woke
  exact ⟨funext fun w => by rw [Cfg.seq, Cfg.seq, same],
    funext fun w => by rw [Cfg.waiting, Cfg.waiting, same]⟩

namespace Waiter

variable (s : Waiter) (f : UInt32)

theorem registered_load : s.load.registeredOn = none := by cases s <;> rfl
theorem registered_again : (s.again f).registeredOn = none := by cases s <;> rfl
theorem registered_add : (s.add f).registeredOn = none := by cases s <;> rfl
theorem registered_wait : (s.wait f).registeredOn = some s.word := by cases s <;> rfl
theorem registered_asleep : s.asleep.registeredOn = some s.word := by cases s <;> rfl
theorem registered_awake : s.asleep.awake.registeredOn = some s.word := by cases s <;> rfl
theorem registered_sub : s.sub.registeredOn = some s.word := by cases s <;> rfl
theorem registered_err : s.err.registeredOn = none := by cases s <;> rfl

end Waiter

/-- What holds at a counter inside an attempt of `trySend`. -/
structure Pc.InAttempt (a : Attempt) (pc : Pc) : Prop where
  due : pc.due = none
  unsaid : pc.unsaid = none
  registered : pc.registeredOn = none
  sleeps : pc.sleepsOn = none
  silent : pc.bumps = none
  loaded : pc.loaded = a.loaded
  sends : pc.sends = true

theorem Pc.of_attempt {a : Attempt} {pc : Pc} (attempt : pc.attempt = some a) : pc.InAttempt a := by
  cases pc <;> first | cases attempt; exact ⟨rfl, rfl, rfl, rfl, rfl, rfl, rfl⟩ | cases attempt

theorem Pc.attempt_of_recovering {a : Attempt} {pc : Pc} (recovering : pc.recovering = some a) :
    pc.attempt = some a := by
  cases pc <;> first | cases recovering; rfl | cases recovering

/-- The step registers the goroutine that runs, or takes it off, or does neither. -/
theorem Signals.waiting {woken : List (Fin n)} (signals : Signals S c t woken c')
    (flat : (c.thr t).pc.Flat) (w : WakeWord) :
    c'.waiting w + (if (c.thr t).pc.registeredOn = some w then 1 else 0) =
      c.waiting w + if (c'.thr t).pc.registeredOn = some w then 1 else 0 := by
  have still : c'.waiting w = c.waiting w → (c'.thr t).pc.registeredOn = (c.thr t).pc.registeredOn →
      c'.waiting w + (if (c.thr t).pc.registeredOn = some w then 1 else 0) =
        c.waiting w + if (c'.thr t).pc.registeredOn = some w then 1 else 0 := by
    intro words same
    rw [words, same]
  cases signals with
  | quiet c₀ pc agrees glides now =>
    subst now
    exact still (congrFun agrees.waiting w) (by rw [goto_pc, glides.registered])
  | wakes i k c₀ pc woke glides now =>
    subst now
    have words := (words_futexWake woke).2
    exact still (congrFun words w) (by rw [goto_pc, glides.registered])
  | load s here now =>
    subst now
    exact still rfl (by rw [goto_pc, here, s.registered_load, s.registered_again])
  | bump w' next here now =>
    subst now
    exact still (waiting_store_futex c w' _ w) (by rw [goto_pc, here]; rfl)
  | quit w' next here none now =>
    subst now
    rw [here] at flat
    exact still rfl (by rw [goto_pc, here, (Pc.of_plain flat.1).registered]; rfl)
  | call w' next c₀ here woke now =>
    subst now
    rw [here] at flat
    have words := (words_futexWake woke).2
    exact still (congrFun words w) (by rw [goto_pc, here, (Pc.of_plain flat.1).registered]; rfl)
  | join s f here now =>
    subst now
    have stored : ((c.store s.word.waiters (c.waiting s.word + 1)).goto t (s.wait f)).waiting w =
        if w = s.word then c.waiting s.word + 1 else c.waiting w := waiting_store_waiters ..
    rw [goto_pc, here, s.registered_add, s.registered_wait, stored]
    by_cases same : w = s.word
    · simp [same]
    · simp [same, Ne.symm same]
  | wait s f here now =>
    subst now
    refine still rfl ?_
    rw [Cfg.futexWait, goto_pc, here, s.registered_wait]
    split
    · exact s.registered_asleep
    · exact s.registered_awake
  | leave s here now =>
    subst now
    have stored : ((c.store s.word.waiters (c.waiting s.word - 1)).goto t s.err).waiting w =
        if w = s.word then c.waiting s.word - 1 else c.waiting w := waiting_store_waiters ..
    rw [goto_pc, here, s.registered_sub, s.registered_err, stored]
    by_cases same : w = s.word
    · simp [same]
    · simp [same, Ne.symm same]
  | enqueue a id c₀ here room agrees now | refuse a id c₀ here refused agrees now =>
    subst now
    exact still (congrFun agrees.waiting w) (by rw [goto_pc, here]; rfl)
  | dequeue a id c₀ here first agrees now =>
    subst now
    exact still (congrFun agrees.waiting w) (by rw [goto_pc, here]; rfl)
  | empty a c₀ here none agrees now =>
    subst now
    exact still (congrFun agrees.waiting w) (by rw [goto_pc, here]; cases a <;> rfl)
  | scan a here now | pass a hint i here busy now =>
    subst now
    exact still rfl (by rw [goto_pc, here, (Pc.of_plain (Pc.within_scan ..).plain).registered]; rfl)
  | take a hint i here was now =>
    subst now
    exact still (congrFun (waiting_setState c _ _ (some t)) w) (by rw [goto_pc, here]; rfl)
  | release id next here now | cancel id next here now =>
    subst now
    exact still (congrFun (waiting_setState c _ _ none) w) (by rw [goto_pc, here]; rfl)
  | recover a i here now =>
    subst now
    exact still rfl (by rw [goto_pc, (Pc.of_plain (Pc.within_recover ..).plain).registered,
      (Pc.of_attempt (Pc.attempt_of_recovering here)).registered])
  | condemn c₀ pc gone thr seq waiting pending within now =>
    subst now
    obtain ⟨a, attempt, after⟩ := within
    refine still (congrFun waiting w) ?_
    rw [goto_pc, (Pc.of_attempt attempt).registered]
    rcases after with attempt' | within | ⟨next, rfl, -⟩
    · exact (Pc.of_attempt attempt').registered
    · exact (Pc.of_plain within.plain).registered
    · rfl

/-- Only a wake helper changes a wake word. -/
theorem Signals.seq {woken : List (Fin n)} (signals : Signals S c t woken c') (w : WakeWord) :
    c'.seq w = c.seq w + if (c.thr t).pc.bumps = some w then 1 else 0 := by
  have still : c'.seq w = c.seq w → (c.thr t).pc.bumps = none →
      c'.seq w = c.seq w + if (c.thr t).pc.bumps = some w then 1 else 0 := by
    intro same silent
    simp [same, silent]
  cases signals with
  | quiet c₀ pc agrees glides now =>
    subst now
    exact still (congrFun agrees.seq w) glides.silent
  | wakes i k c₀ pc woke glides now =>
    subst now
    have words := (words_futexWake woke).1
    exact still (congrFun words w) glides.silent
  | bump w' next here now =>
    subst now
    have stored : ((c.store w'.futex (c.seq w' + 1)).goto t (.wakeLoad w' next)).seq w =
        if w = w' then c.seq w' + 1 else c.seq w := seq_store_futex ..
    rw [here, stored]
    by_cases same : w = w'
    · simp [same, Pc.bumps]
    · simp [same, Pc.bumps, Ne.symm same]
  | call w' next c₀ here woke now =>
    subst now
    have words := (words_futexWake woke).1
    exact still (congrFun words w) (by rw [here]; rfl)
  | load s here now | join s f here now | wait s f here now | leave s here now =>
    subst now
    cases s <;> first
      | exact still rfl (by rw [here]; rfl)
      | exact still (seq_store_waiters c _ _ w) (by rw [here]; rfl)
  | quit w' next here none now | scan a here now | pass a hint i here busy now =>
    subst now
    exact still rfl (by rw [here]; rfl)
  | enqueue a id c₀ here room agrees now | refuse a id c₀ here refused agrees now =>
    subst now
    exact still (congrFun agrees.seq w) (by rw [here]; rfl)
  | dequeue a id c₀ here first agrees now =>
    subst now
    exact still (congrFun agrees.seq w) (by rw [here]; rfl)
  | empty a c₀ here none agrees now =>
    subst now
    exact still (congrFun agrees.seq w) (by rw [here]; rfl)
  | take a hint i here was now =>
    subst now
    exact still (congrFun (seq_setState c _ _ (some t)) w) (by rw [here]; rfl)
  | release id next here now | cancel id next here now =>
    subst now
    exact still (congrFun (seq_setState c _ _ none) w) (by rw [here]; rfl)
  | recover a i here now =>
    subst now
    exact still rfl (Pc.of_attempt (Pc.attempt_of_recovering here)).silent
  | condemn c₀ pc gone thr seq waiting pending within now =>
    subst now
    obtain ⟨a, attempt, -⟩ := within
    exact still (congrFun seq w) (Pc.of_attempt attempt).silent

/-- A value that a goroutine is going to wait on was there before, or has just been
loaded. -/
theorem Signals.loaded {woken : List (Fin n)} (signals : Signals S c t woken c') {f : UInt32}
    (loaded : (c'.thr t).pc.loaded = some (w, f)) :
    (c.thr t).pc.loaded = some (w, f) ∨
      (c.thr t).pc.loaded = none ∧ (c.thr t).pc.bumps = none ∧ f = c.seq w := by
  -- the goroutine goes to a counter that has loaded the same, or nothing
  have keeps : ∀ {pc}, (c'.thr t).pc = pc → pc.loaded = (c.thr t).pc.loaded ∨ pc.loaded = none →
      (c.thr t).pc.loaded = some (w, f) := by
    rintro pc here (same | none)
    · rw [← same, ← here, loaded]
    · rw [here, none] at loaded
      cases loaded
  cases signals with
  | quiet c₀ pc agrees glides now | wakes i k c₀ pc woke glides now =>
    subst now
    exact .inl (keeps (goto_pc ..) glides.loaded)
  | load s here now =>
    subst now
    rw [goto_pc] at loaded
    refine .inr ⟨by rw [here]; cases s <;> rfl, by rw [here]; cases s <;> rfl, ?_⟩
    cases s <;> cases loaded <;> rfl
  | bump w' next here now | quit w' next here none now | call w' next c₀ here woke now =>
    subst now
    exact .inl (keeps (goto_pc ..) (.inl (by rw [here]; rfl)))
  | join s f here now =>
    subst now
    exact .inl (keeps (goto_pc ..) (.inl (by rw [here]; cases s <;> rfl)))
  | wait s f here now =>
    subst now
    refine .inl (keeps (goto_pc ..) (.inr ?_))
    split <;> cases s <;> rfl
  | leave s here now =>
    subst now
    exact .inl (keeps (goto_pc ..) (.inr (by cases s <;> rfl)))
  | enqueue a id c₀ here room agrees now =>
    subst now
    refine .inl (keeps (goto_pc ..) ?_)
    rw [here]
    show (Pc.sent a id).loaded = _ ∨ (Pc.sent a id).loaded = none
    unfold Pc.sent
    split
    · exact .inr rfl
    · exact .inl (Pc.within_sendFailed a false).loaded
  | refuse a id c₀ here refused agrees now =>
    subst now
    exact .inl (keeps (goto_pc ..)
      (.inl (by rw [here]; exact (Pc.within_sendFailed a false).loaded)))
  | dequeue a id c₀ here first agrees now =>
    subst now
    exact .inl (keeps (goto_pc ..) (.inr rfl))
  | empty a c₀ here none agrees now =>
    subst now
    refine .inl (keeps (goto_pc ..) ?_)
    rw [here]
    cases a <;> first | exact .inr rfl | exact .inl rfl
  | scan a here now | pass a hint i here busy now =>
    subst now
    exact .inl (keeps (goto_pc ..) (.inl (by rw [here]; exact (Pc.within_scan ..).loaded)))
  | take a hint i here was now =>
    subst now
    exact .inl (keeps (goto_pc ..) (.inl (by rw [here]; rfl)))
  | release id next here now | cancel id next here now =>
    subst now
    exact .inl (keeps (goto_pc ..) (.inl (by rw [here]; rfl)))
  | recover a i here now =>
    subst now
    have before := Pc.of_attempt (Pc.attempt_of_recovering here)
    exact .inl (keeps (goto_pc ..)
      (.inl (by rw [before.loaded]; exact (Pc.within_recover ..).loaded)))
  | condemn c₀ pc gone thr seq waiting pending within now =>
    subst now
    obtain ⟨a, attempt, after⟩ := within
    refine .inl (keeps (goto_pc ..) (.inl ?_))
    rw [(Pc.of_attempt attempt).loaded]
    rcases after with attempt' | within | ⟨next, rfl, within⟩
    · exact (Pc.of_attempt attempt').loaded
    · exact within.loaded
    · exact within.loaded

/-! ## What every run keeps -/

namespace Tally

/-- A step of the tally is a step of the machine with its histories. -/
theorem step_eq {act : Act n} (stepped : T.step S act = some T') :
    T.cfg.step S act = some T'.cfg ∧ T'.since = T.sinceAfter act ∧
      T'.owes = T.owesAfter T'.cfg act := by
  obtain ⟨c', ran, rfl⟩ := Option.map_eq_some_iff.mp stepped
  exact ⟨ran, rfl, rfl⟩

/-- The counts of waiters count, modulo 2^32, and the distance of a wake word to what
a goroutine has loaded is the number of bumps since. -/
structure Tallied (S : Setup n) (T : Tally n) : Prop where
  base : Base S T.cfg
  flat : ∀ u, (T.cfg.thr u).pc.Flat
  counted : ∀ w, T.cfg.waiting w = UInt32.ofNat (T.cfg.registered w)
  loaded : ∀ u w f, (T.cfg.thr u).pc.loaded = some (w, f) →
    T.cfg.seq w = f + UInt32.ofNat (T.since u)

theorem Tallied.start (start : Start S c) (none : ∀ w, c.waiting w = 0) :
    Tallied S (Tally.start c) where
  base := start.base
  flat u := by
    rw [show ((Tally.start c).cfg.thr u).pc = .idle from start.idle u]
    trivial
  counted w := by
    have zero : c.registered w = 0 := Count.count_eq_zero.mpr fun u => by rw [start.idle u]; rfl
    exact (none w).trans (by rw [show (Tally.start c).cfg.registered w = 0 from zero]; rfl)
  loaded u w f loaded := by
    rw [show ((Tally.start c).cfg.thr u).pc = .idle from start.idle u] at loaded
    cases loaded

/-- What a goroutine has loaded and still goes by. -/
theorem Tallied.kept {act : Act n} {u : Fin n} {w : WakeWord} {f : UInt32}
    (tallied : Tallied S T)
    (seq : c'.seq w = T.cfg.seq w + if T.cfg.bumped act = some w then 1 else 0)
    (loaded : (T.cfg.thr u).pc.loaded = some (w, f)) :
    c'.seq w = f + UInt32.ofNat (T.sinceAfter act u) := by
  have before := tallied.loaded u w f loaded
  rw [sinceAfter, loaded, seq, before]
  dsimp only
  split
  · rw [UInt32.ofNat_add, ← UInt32.add_assoc]
    rfl
  · exact UInt32.add_zero _

/-- A step keeps the counts. -/
theorem Tallied.step {act : Act n} (queueOk : S.shm.QueueOk) (tallied : Tallied S T)
    (stepped : T.step S act = some T') : Tallied S T' := by
  obtain ⟨moved, since, -⟩ := step_eq stepped
  have base' := (step_simulated queueOk tallied.base moved).1
  by_cases runs : ∃ t ans, act = .run t ans
  · obtain ⟨t, ans, rfl⟩ := runs
    have others : ∀ u ≠ t, Same (T.cfg.thr u) (T'.cfg.thr u) := fun u ne =>
      step_same moved fun ans' same => ne (by cases same; rfl)
    obtain ⟨-, ran⟩ := step_run moved
    obtain ⟨flat, signals⟩ := run_signalled queueOk tallied.base (tallied.flat t) ran
    refine ⟨base', fun u => ?_, fun w => ?_, fun u w f loaded => ?_⟩
    · by_cases own : u = t
      · subst own
        exact flat (tallied.flat u)
      · exact (others u own).flat (tallied.flat u)
    · have counts := congrArg UInt32.ofNat (Count.count_of_ne
        (p := fun th : Thread => decide (th.pc.registeredOn = some w))
        (f := T.cfg.thr) (g := T'.cfg.thr) fun u ne => by rw [(others u ne).registered])
      have words := signals.waiting (tallied.flat t) w
      have one : ∀ p : Prop, [Decidable p] →
          UInt32.ofNat (decide p).toNat = if p then 1 else 0 := by
        intro p _
        split <;> simp [*]
      rw [UInt32.ofNat_add, UInt32.ofNat_add, one, one] at counts
      rw [tallied.counted w] at words
      exact (UInt32.add_left_inj _).mp (words.trans counts.symm)
    · rw [since]
      by_cases own : u = t
      · subst own
        rcases signals.loaded loaded with same | ⟨none, silent, rfl⟩
        · exact tallied.kept (signals.seq w) same
        · rw [sinceAfter, none, signals.seq w, silent]
          rfl
      · rw [(others u own).loaded] at loaded
        exact tallied.kept (signals.seq w) loaded
  · have same : ∀ u, Same (T.cfg.thr u) (T'.cfg.thr u) := fun u =>
      step_same moved fun ans same => runs ⟨u, ans, same⟩
    have mem := (step_mem moved fun t ans same => runs ⟨t, ans, same⟩).1
    have silent : T.cfg.bumped act = none := by
      cases act with
      | run t ans => exact absurd ⟨t, ans, rfl⟩ runs
      | _ => rfl
    refine ⟨base', fun u => (same u).flat (tallied.flat u), fun w => ?_, fun u w f loaded => ?_⟩
    · have counts : T'.cfg.registered w = T.cfg.registered w :=
        Count.count_congr fun u => by rw [(same u).registered]
      rw [counts, ← tallied.counted w, Cfg.waiting, Cfg.waiting, mem]
    · rw [since]
      rw [(same u).loaded] at loaded
      refine tallied.kept ?_ loaded
      rw [silent, Cfg.seq, Cfg.seq, mem]
      exact (UInt32.add_zero _).symm

end Tally

end ReqRep
