import ReqRep.Machine.Missed
import ReqRep.Machine.Tally

/-!
# Sleepers are attended

The account of a wake word: while somebody sleeps, there is at most as much of what
the word tells of as there are goroutines that are still to tell of it and
goroutines that were woken for it. `Fair` lists what this rests on.
-/

namespace ReqRep

variable {n : Nat} {S : Setup n} {T T' : Tally n} {c c' c₀ : Cfg n} {t u : Fin n} {w : WakeWord}
  {ck : Check}

/-! ## The account -/

/-- The goroutine that runs. -/
def Act.runner : Act n → Option (Fin n)
  | .run t _ => some t
  | _ => none

/-- Whom an act wakes. -/
def Act.woken : Act n → List (Fin n)
  | .run _ ans => ans.woken
  | _ => []

/-- The act ends the context of `u`, as far as the loop that waits on `w` looks at it. -/
def Act.ends (w : WakeWord) (u : Fin n) : Act n → Bool
  | .cancelCtx t => t = u
  | .deadline t => t = u && w ≠ .recv
  | _ => false

/-- The hint of the first pass that is under way. -/
def Pc.scanning : Pc → Option UInt32
  | .acqCas _ hint _ => some hint
  | _ => none

/-- The id of the request that `sendLocked` is about to take. -/
def Pc.sending : Pc → Option UInt64
  | .send _ id => some id
  | _ => none

/-- What the account for a word rests on, where an act is taken. -/
structure Fair (S : Setup n) (w : WakeWord) (T : Tally n) (act : Act n) : Prop where
  /-- The count of waiters does not wrap. -/
  few : T.cfg.registered w < 2 ^ 32
  /-- Nor does the word between its load and the wait. -/
  bumps : ∀ t ∈ act.runner, (T.cfg.thr t).pc.registeredOn = some w → T.since t < 2 ^ 32
  /-- Whoever is woken can go on. -/
  wakes : ∀ u ∈ act.woken, (T.cfg.thr u).pc.sleepsOn = some w → (T.cfg.thr u).live w = true
  /-- Whoever owes a retry goes on. -/
  stays : ∀ u, T.owes w u = true → act.ends w u = false
  /-- No slot is recovered from a dead process. -/
  alive : w ≠ .recv → act.thread.isSome = true
  /-- A first pass looks at every slot. -/
  scans : w = .slot → ∀ t ∈ act.runner, ∀ hint ∈ (T.cfg.thr t).pc.scanning, S.shm.Reaches hint
  /-- A sender that is going to wait for the queue finds a slot. -/
  slot : w = .send → ∀ t ∈ act.runner, ∀ a ∈ (T.cfg.thr t).pc.recovering,
    a.loaded.map Prod.fst ≠ some .send
  /-- A request is refused by a full queue only. -/
  full : w = .send → ∀ t ∈ act.runner, ∀ id ∈ (T.cfg.thr t).pc.sending,
    ((sendLocked S.shm (T.cfg.thr t).req (idSlot id) (idGen id)).run T.cfg.mem).map Prod.fst =
      some false → T.cfg.pending.length = S.shm.reqCap.toNat
  /-- `sendWait` does not take a success for a failure. -/
  ids : w ≠ .recv → ∀ t ∈ act.runner, (T.cfg.thr t).pc.sending ≠ some 0

/-- Whoever is about to sleep has missed nothing that is not going to be told, and
whoever sleeps has missed nothing that nobody looks after. -/
structure Attended (S : Setup n) (w : WakeWord) (T : Tally n) : Prop where
  heard : ∀ u ck, (T.cfg.thr u).pc.checks = some ck → ck.word = w → T.since u = 0 →
    T.cfg.missed S ck ≤ T.cfg.unsaids w
  watched : ∀ u, (T.cfg.thr u).pc.sleepsOn = some w → T.cfg.dead (S.pid u) = false →
    T.cfg.missed S (.whole w) ≤ T.cfg.dues w + T.owing w
  owes : ∀ u, T.owes w u = true → (T.cfg.thr u).pc.loops w = true ∧
    (T.cfg.thr u).live w = true ∧ (T.cfg.thr u).pc.sleepsOn ≠ some w
  calm : w ≠ .recv → (∀ pid, T.cfg.dead pid = false) ∧ ∀ u, (T.cfg.thr u).pc.condemns = false

/-- One if the condition holds. -/
abbrev one (p : Prop) [Decidable p] : Nat := (decide p).toNat

/-- What an operation of `t` does for one word. -/
inductive Tells (S : Setup n) (c : Cfg n) (t : Fin n) (woken : List (Fin n)) (w : WakeWord)
    (c' : Cfg n) : Prop where
  /-- There may be more of what the word tells of, and then this is to be told. -/
  | moves (pc : Pc) (here : (c'.thr t).pc = pc)
      (missed : ∀ ck, ck.word = w → c'.missed S ck + one ((c.thr t).pc.unsaid = some w) ≤
        c.missed S ck + one (pc.unsaid = some w))
      (due : one (pc.due = some w) + one ((c.thr t).pc.unsaid = some w) =
        one ((c.thr t).pc.due = some w) + one (pc.unsaid = some w))
      (silent : (c.thr t).pc.bumps ≠ some w)
      (checks : ∀ ck, pc.checks = some ck → ck.word = w →
        (∃ ck₀, (c.thr t).pc.checks = some ck₀ ∧ ck₀.word = w ∧
          c'.missed S ck + one ((c.thr t).pc.unsaid = some w) ≤
            c.missed S ck₀ + one (pc.unsaid = some w)) ∨ c'.missed S ck = 0)
      (awake : pc.sleepsOn ≠ some w)
      (stays : (c.thr t).pc.loops w = true → pc.loops w = true ∨
        pc = .idle ∧ (c.thr t).live w = false)
      (unsettled : Pc.settles w (c.thr t).pc pc = true → pc = .idle)
  /-- The goroutine uses some of it, or finds none. -/
  | uses (pc : Pc) (here : (c'.thr t).pc = pc)
      (missed : ∀ ck, ck.word = w → c'.missed S ck ≤ c.missed S ck)
      (less : c'.missed S (.whole w) + 1 ≤ c.missed S (.whole w) ∨ c'.missed S (.whole w) = 0)
      (before : (c.thr t).pc.due = none ∧ (c.thr t).pc.unsaid = none)
      (after : pc.due ≠ some w ∧ pc.unsaid ≠ some w)
      (silent : (c.thr t).pc.bumps ≠ some w)
      (checks : ∀ ck, pc.checks = some ck → ck.word = w → c'.missed S ck = 0)
      (awake : pc.sleepsOn ≠ some w)
      (settled : Pc.settles w (c.thr t).pc pc = true)
  | bump (next : Pc) (before : (c.thr t).pc = .wakeBump w next)
      (here : (c'.thr t).pc = .wakeLoad w next) (missed : ∀ ck, c'.missed S ck = c.missed S ck)
  | quit (next : Pc) (before : (c.thr t).pc = .wakeLoad w next) (none : c.waiting w = 0)
      (here : (c'.thr t).pc = next) (missed : ∀ ck, c'.missed S ck = c.missed S ck)
  | call (next : Pc) (c₀ : Cfg n) (before : (c.thr t).pc = .wakeCall w next)
      (woke : c.futexWake S w.futex 1 woken = some c₀) (now : c' = c₀.goto t next)
  | sleep (s : Waiter) (f : UInt32) (word : s.word = w) (before : (c.thr t).pc = s.wait f)
      (same : c.seq w = f) (here : (c'.thr t).pc = s.asleep)
      (missed : ∀ ck, c'.missed S ck = c.missed S ck)

/-! ## What a step counts -/

theorem loaded_of_checks {pc : Pc} (checks : pc.checks = some ck) :
    ∃ f, pc.loaded = some (ck.word, f) := by
  induction pc with
  | wakeLoad w next ih | wakeCall w next ih | cancelGen id next ih | cancelCas id next ih
  | cancelOwner id next ih | cancelBump id next ih | cancelLoad id next ih
  | cancelWake id next ih => exact ih checks
  | wakeBump w next ih | releaseOwner id next ih | releaseState id next ih =>
    exact ih (Option.filter_eq_some_iff.mp checks).1
  | acqCas a hint i | recState a i | recOwner a i state | recAlive a i state pid =>
    rcases a with _ | ⟨_ | _, fseq⟩ | _ <;> cases checks
    exact ⟨fseq, rfl⟩
  | sendTimeout noSlots fseq | sendAddWaiters noSlots fseq | sendFutexWait noSlots fseq
  | recvErr fseq | recvAddWaiters fseq | recvFutexWait fseq =>
    cases checks
    exact ⟨fseq, rfl⟩
  | _ => cases checks

/-- Where nothing was bumped since the load, nothing was before the step. -/
theorem since_eq_zero {act : Act n} {f : UInt32} (zero : T.sinceAfter act u = 0)
    (loaded : (T.cfg.thr u).pc.loaded = some (w, f)) :
    T.cfg.bumped act ≠ some w ∧ T.since u = 0 := by
  simp only [Tally.sinceAfter, loaded] at zero
  split at zero
  · cases zero
  · next silent => exact ⟨silent, zero⟩

section Run

variable {ans : Answer n}

theorem dues_run (others : ∀ u ≠ t, Same (c.thr u) (c'.thr u)) :
    c'.dues w + one ((c.thr t).pc.due = some w) = c.dues w + one ((c'.thr t).pc.due = some w) :=
  Count.count_of_ne (p := fun th : Thread => decide (th.pc.due = some w)) fun u ne => by
    rw [(others u ne).due]

theorem unsaids_run (others : ∀ u ≠ t, Same (c.thr u) (c'.thr u)) :
    c'.unsaids w + one ((c.thr t).pc.unsaid = some w) =
      c.unsaids w + one ((c'.thr t).pc.unsaid = some w) :=
  Count.count_of_ne (p := fun th : Thread => decide (th.pc.unsaid = some w)) fun u ne => by
    rw [(others u ne).unsaid]

/-- Goroutines that do not run go on owing. -/
theorem owes_run (u : Fin n) (ne : u ≠ t) (owes : T.owes w u = true) :
    T.owesAfter c' (.run t ans) w u = true := by
  simp only [Tally.owesAfter, if_neg ne, owes, Bool.true_or]

theorem owes_run_self : T.owesAfter c' (.run t ans) w t =
    (T.owes w t && !Pc.settles w (T.cfg.thr t).pc (c'.thr t).pc) := by
  simp only [Tally.owesAfter, if_true]

theorem owing_run (owes : T'.owes = T.owesAfter T'.cfg (.run t ans)) :
    T.owing w + (T'.owes w t).toNat ≤ T'.owing w + (T.owes w t).toNat := by
  have moved := Count.count_update id (T.owes w) t (T'.owes w t)
  have more : Count.count id (Function.update (T.owes w) t (T'.owes w t)) ≤ T'.owing w := by
    refine Count.count_mono fun u owed => ?_
    by_cases own : u = t
    · subst own
      simpa using owed
    · rw [id, Function.update_of_ne own] at owed
      rw [id, owes]
      exact owes_run u own owed
  exact Nat.le_trans (Nat.le_of_eq moved.symm) (Nat.add_le_add_right more _)

/-- Who has the bump ahead is before the end of a wake helper. -/
theorem unsaids_le_dues (c : Cfg n) (w : WakeWord) : c.unsaids w ≤ c.dues w := by
  refine Count.count_mono fun u unsaid => ?_
  rw [decide_eq_true_eq] at unsaid ⊢
  cases here : (c.thr u).pc <;> rw [here] at unsaid <;> first | exact unsaid | cases unsaid

/-- A step in which goroutine `t` runs. -/
structure Ran (S : Setup n) (T : Tally n) (t : Fin n) (ans : Answer n) (T' : Tally n) : Prop where
  tallied : Tally.Tallied S T
  ran : T.cfg.run S t ans = some T'.cfg
  others : ∀ u ≠ t, Same (T.cfg.thr u) (T'.cfg.thr u)
  since : T'.since = T.sinceAfter (.run t ans)
  owes : T'.owes = T.owesAfter T'.cfg (.run t ans)

namespace Ran

variable (ran : Ran S T t ans T')

include ran

theorem dues : T'.cfg.dues w + one ((T.cfg.thr t).pc.due = some w) =
    T.cfg.dues w + one ((T'.cfg.thr t).pc.due = some w) := dues_run ran.others

theorem unsaids : T'.cfg.unsaids w + one ((T.cfg.thr t).pc.unsaid = some w) =
    T.cfg.unsaids w + one ((T'.cfg.thr t).pc.unsaid = some w) := unsaids_run ran.others

theorem owing : T.owing w + (T'.owes w t).toNat ≤ T'.owing w + (T.owes w t).toNat :=
  owing_run ran.owes

theorem owes_self : T'.owes w t =
    (T.owes w t && !Pc.settles w (T.cfg.thr t).pc (T'.cfg.thr t).pc) := by
  rw [ran.owes]
  exact owes_run_self

theorem live (u : Fin n) (w : WakeWord) : (T'.cfg.thr u).live w = (T.cfg.thr u).live w := by
  obtain ⟨ctxErr, pastDeadline⟩ := run_context ran.ran u
  cases w <;> simp only [Thread.live, ctxErr, pastDeadline]

theorem dead : T'.cfg.dead = T.cfg.dead := run_dead ran.ran

/-- Where the word was not bumped, another goroutine has missed what it missed. -/
theorem heard_of_ne (attended : Attended S w T) (ne : u ≠ t)
    (checks : (T'.cfg.thr u).pc.checks = some ck) (word : ck.word = w) (zero : T'.since u = 0) :
    (T.cfg.thr t).pc.bumps ≠ some w ∧ T.cfg.missed S ck ≤ T.cfg.unsaids w := by
  rw [(ran.others u ne).checks] at checks
  obtain ⟨f, loaded⟩ := loaded_of_checks checks
  rw [ran.since] at zero
  obtain ⟨silent, before⟩ := since_eq_zero zero loaded
  rw [word] at silent
  exact ⟨silent, attended.heard u ck checks word before⟩

/-- Whoever sleeps and has not run slept before. -/
theorem watched_of_ne (attended : Attended S w T) (ne : u ≠ t)
    (asleep : (T'.cfg.thr u).pc.sleepsOn = some w) (live : T'.cfg.dead (S.pid u) = false) :
    (T.cfg.thr u).pc.sleepsOn = some w ∧ T.cfg.dead (S.pid u) = false ∧
      T.cfg.missed S (.whole w) ≤ T.cfg.dues w + T.owing w := by
  have before : (T.cfg.thr u).pc.sleepsOn = some w := by
    rcases (ran.others u ne).sleeps with same | none
    · rw [← same, asleep]
    · rw [none] at asleep
      cases asleep
  rw [ran.dead] at live
  exact ⟨before, live, attended.watched u before live⟩

/-- Whoever owes and has not run owed before, or has been woken. -/
theorem owes_of_ne (attended : Attended S w T) (fair : Fair S w T (.run t ans)) (ne : u ≠ t)
    (owes : T'.owes w u = true) : (T'.cfg.thr u).pc.loops w = true ∧
      (T'.cfg.thr u).live w = true ∧ (T'.cfg.thr u).pc.sleepsOn ≠ some w := by
  have same := ran.others u ne
  simp only [ran.owes, Tally.owesAfter, if_neg ne, Bool.or_eq_true, Bool.and_eq_true,
    decide_eq_true_eq] at owes
  rw [ran.live]
  rcases owes with owed | ⟨asleep, awake⟩
  · obtain ⟨loops, live, awake⟩ := attended.owes u owed
    refine ⟨same.loops w loops, live, ?_⟩
    rcases same.sleeps with sleeps | none
    · rwa [sleeps]
    · rw [none]
      rintro ⟨⟩
  · have loops : (T.cfg.thr u).pc.loops w = true := by
      cases here : (T.cfg.thr u).pc with
      | sendAsleep noSlots =>
        rw [here] at asleep
        cases noSlots <;> cases asleep <;> rfl
      | recvAsleep =>
        rw [here] at asleep
        cases asleep
        rfl
      | _ =>
        rw [here] at asleep
        cases asleep
    have woken : u ∈ ans.woken := by
      rcases run_thr_of_ne ran.ran ne with kept | woken
      · rw [kept, asleep] at awake
        cases awake
      · exact woken
    refine ⟨same.loops w loops, fair.wakes u woken asleep, ?_⟩
    rw [awake]
    rintro ⟨⟩

end Ran

/-- Whoever runs and goes on in its loop owes what it owed. -/
theorem Ran.owes_kept (ran : Ran S T t ans T') (attended : Attended S w T)
    (stays : (T.cfg.thr t).pc.loops w = true → (T'.cfg.thr t).pc.loops w = true ∨
      (T'.cfg.thr t).pc = .idle ∧ (T.cfg.thr t).live w = false)
    (unsettled : Pc.settles w (T.cfg.thr t).pc (T'.cfg.thr t).pc = true →
      (T'.cfg.thr t).pc = .idle) :
    T'.owes w t = T.owes w t ∧ (T'.owes w t = true →
      (T'.cfg.thr t).pc.loops w = true ∧ (T'.cfg.thr t).live w = true) := by
  rw [ran.owes_self, ran.live]
  cases owed : T.owes w t with
  | false => exact ⟨rfl, nofun⟩
  | true =>
    obtain ⟨loops, live, -⟩ := attended.owes t owed
    have still : (T'.cfg.thr t).pc.loops w = true := by
      rcases stays loops with still | ⟨-, ended⟩
      · exact still
      · rw [live] at ended
        cases ended
    have open' : Pc.settles w (T.cfg.thr t).pc (T'.cfg.thr t).pc = false := by
      rw [Bool.eq_false_iff]
      intro settled
      rw [unsettled settled] at still
      cases w <;> cases still
    rw [open']
    exact ⟨rfl, fun _ => ⟨still, live⟩⟩

/-- A sleeper is counted as a waiter. -/
theorem Tally.Tallied.waiting_ne_zero (tallied : Tally.Tallied S T)
    (few : T.cfg.registered w < 2 ^ 32) (asleep : (T.cfg.thr u).pc.sleepsOn = some w) :
    T.cfg.waiting w ≠ 0 := by
  intro none
  have same := congrArg UInt32.toNat ((tallied.counted w).symm.trans none)
  rw [UInt32.toNat_ofNat', Nat.mod_eq_of_lt few] at same
  have out := Count.count_eq_zero.mp same u
  rw [decide_eq_false_iff_not] at out
  cases here : (T.cfg.thr u).pc <;> rw [here] at asleep out <;> first
    | exact out asleep
    | cases asleep

/-- Back from a wake helper. -/
theorem unsettled_next {before next : Pc} (plain : next.plain = true)
    (wakes : ∃ w', before = .wakeLoad w' next ∨ before = .wakeCall w' next)
    (settled : Pc.settles w before next = true) : next = .idle := by
  have awake := (Pc.of_plain plain).sleeps
  obtain ⟨w', rfl | rfl⟩ := wakes <;> cases w <;>
    simpa [Pc.settles, awake] using settled

theorem sleepsOn_of_asleep {pc : Pc} (asleep : pc.asleepOn = some w.futex) :
    pc.sleepsOn = some w := by
  cases pc with
  | sendAsleep noSlots => cases noSlots <;> cases w <;> first | rfl | cases asleep
  | recvAsleep => cases w <;> first | rfl | cases asleep
  | waitAsleep id => cases w <;> cases asleep
  | _ => cases asleep

theorem asleepOn_of_sleeps {pc : Pc} (asleep : pc.sleepsOn = some w) :
    pc.asleepOn = some w.futex := by
  cases pc with
  | sendAsleep noSlots | recvAsleep =>
    cases asleep
    rfl
  | _ => cases asleep

theorem awake_sleepsOn (pc : Pc) : pc.awake.sleepsOn = none := by
  cases pc <;> rfl

/-- A `futexWake` that finds a sleeper makes one owe. -/
theorem Ran.owing_call (ran : Ran S T t ans T') (attended : Attended S w T) {next : Pc}
    (before : (T.cfg.thr t).pc = .wakeCall w next)
    (woke : T.cfg.futexWake S w.futex 1 ans.woken = some c₀) (now : T'.cfg = c₀.goto t next)
    (same : T'.owes w t = T.owes w t) (asleep : (T.cfg.thr u).pc.sleepsOn = some w)
    (live : T.cfg.dead (S.pid u) = false) : T.owing w + 1 ≤ T'.owing w := by
  obtain ⟨x, slept, woken⟩ := some_woken woke (by decide) (asleepOn_of_sleeps asleep) live
  have other : x ≠ t := by
    rintro rfl
    rw [before] at slept
    cases slept
  have slept := sleepsOn_of_asleep slept
  have moved : (T'.cfg.thr x).pc = (T.cfg.thr x).pc.awake := by
    rw [now, show (c₀.goto t next).thr x = c₀.thr x from Function.update_of_ne other _ _, woken]
  have awake := awake_sleepsOn (T.cfg.thr x).pc
  have free : T.owes w x = false := by
    rw [Bool.eq_false_iff]
    exact fun owed => (attended.owes x owed).2.2 slept
  have owes : T'.owes w x = true := by
    simp only [ran.owes, Tally.owesAfter, if_neg other, free, slept, moved, awake]
    rfl
  have counts := Count.count_update id (T.owes w) x true
  have more : Count.count id (Function.update (T.owes w) x true) ≤ T'.owing w := by
    refine Count.count_mono fun u owed => ?_
    by_cases chosen : u = x
    · rw [chosen]
      exact owes
    · rw [id, Function.update_of_ne chosen] at owed
      by_cases own : u = t
      · rw [own, id, same, ← own, owed]
      · rw [id, ran.owes]
        exact owes_run u own owed
  simp only [free, id, Bool.toNat_false, Bool.toNat_true] at counts
  exact Nat.le_trans (Nat.le_of_eq counts.symm) more

/-- A step of a goroutine: nothing that is missed is left without somebody who tells of it
or looks after it. -/
theorem Attended.run (attended : Attended S w T) (fair : Fair S w T (.run t ans))
    (ran : Ran S T t ans T') (tells : Tells S T.cfg t ans.woken w T'.cfg)
    (calm : w ≠ .recv → (T'.cfg.thr t).pc.condemns = false) : Attended S w T' := by
  have calm' : w ≠ .recv → (∀ pid, T'.cfg.dead pid = false) ∧
      ∀ u, (T'.cfg.thr u).pc.condemns = false := by
    intro sends
    obtain ⟨alive, before⟩ := attended.calm sends
    refine ⟨fun pid => by rw [ran.dead, alive pid], fun u => ?_⟩
    by_cases own : u = t
    · rw [own]
      exact calm sends
    · rw [(ran.others u own).calm, before u]
  have dues := ran.dues (w := w)
  have unsaids := ran.unsaids (w := w)
  have owing := ran.owing (w := w)
  cases tells with
  | moves pc here missed due silent checks awake stays unsettled =>
    subst here
    obtain ⟨same, still⟩ := ran.owes_kept attended stays unsettled
    refine ⟨fun u ck found word zero => ?_, fun u asleep live => ?_, fun u owes => ?_, calm'⟩
    · by_cases own : u = t
      · subst own
        rcases checks ck found word with ⟨ck₀, found₀, word₀, less⟩ | none
        · obtain ⟨f, loaded⟩ := loaded_of_checks found₀
          rw [ran.since] at zero
          have heard := attended.heard u ck₀ found₀ word₀ (since_eq_zero zero loaded).2
          omega
        · omega
      · have heard := (ran.heard_of_ne attended own found word zero).2
        have less := missed ck word
        omega
    · have own : u ≠ t := by
        rintro rfl
        exact awake asleep
      have watched := (ran.watched_of_ne attended own asleep live).2.2
      have less := missed (.whole w) rfl
      rw [same] at owing
      omega
    · by_cases own : u = t
      · subst own
        obtain ⟨loops, live⟩ := still owes
        exact ⟨loops, live, awake⟩
      · exact ran.owes_of_ne attended fair own owes
  | uses pc here missed less before after silent checks awake settled =>
    subst here
    have none : T'.owes w t = false := by rw [ran.owes_self, settled]; exact Bool.and_false _
    simp only [before.1, before.2, after.1, after.2, reduceCtorEq] at dues unsaids
    refine ⟨fun u ck found word zero => ?_, fun u asleep live => ?_, fun u owes => ?_, calm'⟩
    · by_cases own : u = t
      · subst own
        rw [checks ck found word]
        exact Nat.zero_le _
      · have heard := (ran.heard_of_ne attended own found word zero).2
        have less := missed ck word
        omega
    · have own : u ≠ t := by
        rintro rfl
        exact awake asleep
      have watched := (ran.watched_of_ne attended own asleep live).2.2
      have owed := Bool.toNat_le (T.owes w t)
      rw [none, Bool.toNat_false] at owing
      omega
    · have own : u ≠ t := by
        rintro rfl
        rw [none] at owes
        cases owes
      exact ran.owes_of_ne attended fair own owes
  | bump next before here missed =>
    obtain ⟨same, still⟩ := ran.owes_kept attended (by rw [before, here]; cases w <;> exact .inl)
      (by rw [before, here]; cases w <;> nofun)
    have bumps : (T.cfg.thr t).pc.bumps = some w := by rw [before]; rfl
    simp only [before, here, Pc.due] at dues
    refine ⟨fun u ck found word zero => ?_, fun u asleep live => ?_, fun u owes => ?_, calm'⟩
    · -- whoever has missed something has loaded the word before
      exfalso
      by_cases own : u = t
      · subst own
        rw [here] at found
        obtain ⟨f, loaded⟩ := loaded_of_checks found
        rw [ran.since] at zero
        refine (since_eq_zero zero (w := ck.word) (f := f) (by rw [before]; exact loaded)).1 ?_
        rw [word]
        exact bumps
      · exact (ran.heard_of_ne attended own found word zero).1 bumps
    · have own : u ≠ t := by
        rintro rfl
        rw [here] at asleep
        cases asleep
      have watched := (ran.watched_of_ne attended own asleep live).2.2
      rw [same] at owing
      rw [missed]
      omega
    · by_cases own : u = t
      · subst own
        obtain ⟨loops, live⟩ := still owes
        exact ⟨loops, live, by rw [here]; nofun⟩
      · exact ran.owes_of_ne attended fair own owes
  | quit next before none here missed =>
    have flat := ran.tallied.flat t
    rw [before] at flat
    obtain ⟨due, unsaid, -, awake, -⟩ := Pc.of_plain flat.1
    obtain ⟨same, still⟩ := ran.owes_kept attended
      (by rw [before, here]; cases w <;> first | exact .inl | nofun)
      (by rw [before, here]; exact unsettled_next flat.1 ⟨w, .inl rfl⟩)
    have silent : (Pc.wakeLoad w next).unsaid = Option.none := rfl
    simp only [before, here, silent, unsaid] at unsaids
    refine ⟨fun u ck found word zero => ?_, fun u asleep live => ?_, fun u owes => ?_, calm'⟩
    · rw [missed]
      by_cases own : u = t
      · subst own
        rw [here] at found
        have found₀ : (T.cfg.thr u).pc.checks = some ck := by rw [before]; exact found
        obtain ⟨f, loaded⟩ := loaded_of_checks found₀
        rw [ran.since] at zero
        have heard := attended.heard u ck found₀ word (since_eq_zero zero loaded).2
        omega
      · have heard := (ran.heard_of_ne attended own found word zero).2
        omega
    · -- nobody sleeps: no waiter is counted
      have own : u ≠ t := by
        rintro rfl
        rw [here, awake] at asleep
        cases asleep
      obtain ⟨before, -, -⟩ := ran.watched_of_ne attended own asleep live
      exact absurd none (ran.tallied.waiting_ne_zero fair.few before)
    · by_cases own : u = t
      · subst own
        obtain ⟨loops, live⟩ := still owes
        exact ⟨loops, live, by rw [here, awake]; nofun⟩
      · exact ran.owes_of_ne attended fair own owes
  | call next c₀ before woke now =>
    have flat := ran.tallied.flat t
    rw [before] at flat
    obtain ⟨due, unsaid, -, awake, -⟩ := Pc.of_plain flat.1
    have here : (T'.cfg.thr t).pc = next := by rw [now, goto_pc]
    have missed : ∀ ck, T'.cfg.missed S ck = T.cfg.missed S ck := fun ck => by
      rw [now]
      exact missed_futexWake woke ck
    obtain ⟨same, still⟩ := ran.owes_kept attended
      (by rw [before, here]; cases w <;> first | exact .inl | nofun)
      (by rw [before, here]; exact unsettled_next flat.1 ⟨w, .inr rfl⟩)
    have silent : (Pc.wakeCall w next).unsaid = none := rfl
    have told : one ((T.cfg.thr t).pc.due = some w) = 1 := by simp [before, Pc.due]
    have done : one ((T'.cfg.thr t).pc.due = some w) = 0 := by simp [here, due]
    simp only [before, here, silent, unsaid] at unsaids
    refine ⟨fun u ck found word zero => ?_, fun u asleep live => ?_, fun u owes => ?_, calm'⟩
    · rw [missed]
      by_cases own : u = t
      · subst own
        rw [here] at found
        have found₀ : (T.cfg.thr u).pc.checks = some ck := by rw [before]; exact found
        obtain ⟨f, loaded⟩ := loaded_of_checks found₀
        rw [ran.since] at zero
        have heard := attended.heard u ck found₀ word (since_eq_zero zero loaded).2
        omega
      · have heard := (ran.heard_of_ne attended own found word zero).2
        omega
    · have own : u ≠ t := by
        rintro rfl
        rw [here, awake] at asleep
        cases asleep
      obtain ⟨slept, alive, watched⟩ := ran.watched_of_ne attended own asleep live
      have more := ran.owing_call attended before woke now same slept alive
      rw [missed]
      omega
    · by_cases own : u = t
      · subst own
        obtain ⟨loops, live⟩ := still owes
        exact ⟨loops, live, by rw [here, awake]; nofun⟩
      · exact ran.owes_of_ne attended fair own owes
  | sleep s f word before same here missed =>
    subst word
    have none : T'.owes s.word t = false := by
      rw [ran.owes_self, here]
      have settled : Pc.settles s.word (T.cfg.thr t).pc s.asleep = true := by
        cases s <;> simp [Pc.settles, Waiter.asleep, Waiter.word, Pc.sleepsOn]
      rw [settled]
      exact Bool.and_false _
    have silent : (T.cfg.thr t).pc.unsaid = Option.none ∧ (T.cfg.thr t).pc.due = Option.none := by
      rw [before]
      cases s <;> exact ⟨rfl, rfl⟩
    have silent' : s.asleep.unsaid = Option.none ∧ s.asleep.due = Option.none := by
      cases s <;> exact ⟨rfl, rfl⟩
    simp only [here, silent.1, silent.2, silent'.1, silent'.2, reduceCtorEq] at dues unsaids
    -- the sleeper has looked for it in vain, and all there is now is going to be told
    have told : T.cfg.missed S (.whole s.word) ≤ T.cfg.unsaids s.word := by
      have loaded := ran.tallied.loaded t s.word f (by rw [before]; cases s <;> rfl)
      have zero : T.since t = 0 := by
        have bumps := fair.bumps t rfl (by rw [before]; exact s.registered_wait f)
        have none := congrArg UInt32.toNat (UInt32.add_eq_left.mp (loaded.symm.trans same))
        rw [UInt32.toNat_ofNat', Nat.mod_eq_of_lt bumps] at none
        exact none
      exact attended.heard t _ (by rw [before]; cases s <;> rfl) rfl zero
    refine ⟨fun u ck found word zero => ?_, fun u asleep live => ?_, fun u owes => ?_, calm'⟩
    · rw [missed]
      by_cases own : u = t
      · subst own
        rw [here] at found
        cases s <;> cases found
      · have heard := (ran.heard_of_ne attended own found word zero).2
        omega
    · have less := unsaids_le_dues T.cfg s.word
      rw [missed]
      omega
    · have own : u ≠ t := by
        rintro rfl
        rw [none] at owes
        cases owes
      exact ran.owes_of_ne attended fair own owes

end Run

end ReqRep
