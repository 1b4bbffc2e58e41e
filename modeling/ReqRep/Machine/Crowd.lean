import ReqRep.Machine.Receive

/-!
# A crowd of receivers

`recv_waiters` is a `uint32`. With 2^32 receivers asleep it is 0 again, and a sender
that bumps `recv_futex` sees nobody to wake.
-/

namespace ReqRep

variable {n : Nat} {S : Setup n} {T T' : Tally n} {c c' : Cfg n} {t u : Fin n} {act : Act n}
  {acts : List (Act n)}

/-! ## Falling asleep -/

/-- What puts a receiver to sleep on an empty queue. -/
def fallAsleep (t : Fin n) : List (Act n) := .serve t :: go t 6

/-- Goroutine `t` in `recvWait`, with a context that has not ended, after some stores. -/
def Cfg.receiver (c : Cfg n) (t : Fin n) (m : Mem) (pc : Pc) : Cfg n :=
  { c with mem := m, thr := Function.update c.thr t ⟨pc, [], false, false⟩ }

/-- Receivers that fell asleep have found the queue empty twice each. -/
def Mem.asleep (m : Mem) (k : UInt32) : Mem :=
  (m.set32 .hdrStatRecvEmpty (m.u32 .hdrStatRecvEmpty + (k + k))).set32 .hdrRecvWaiters
    (m.u32 .hdrRecvWaiters + k)

theorem asleep_zero (m : Mem) : m.asleep 0 = m := by
  refine Mem.ext (funext fun l => ?_) rfl rfl
  simp only [Mem.asleep, Mem.set32_u32, UInt32.add_zero]
  split
  · next same => rw [same]
  · split
    · next same => rw [same]
    · rfl

theorem asleep_asleep (m : Mem) (k : UInt32) : (m.asleep 1).asleep k = m.asleep (k + 1) := by
  refine Mem.ext (funext fun l => ?_) rfl rfl
  simp only [Mem.asleep, Mem.set32_u32, reduceCtorEq, if_true, if_false]
  split
  · grind
  · split
    · grind
    · rfl

/-- The word is bumped fewer than 2^32 times between a load and the wait. -/
def Prompt (T : Tally n) (act : Act n) : Prop :=
  ∀ t ∈ act.runner, (T.cfg.thr t).pc.registeredOn = some .recv → T.since t < 2 ^ 32

instance (T : Tally n) (act : Act n) : Decidable (Prompt T act) :=
  Option.decidableForallMem act.runner

/-- A run in which nothing is bumped and nobody is woken. -/
theorem Tally.start_step (stepped : c.step S act = some c') (silent : c.bumped act = none)
    (others : ∀ u, act.thread ≠ some u → c'.thr u = c.thr u) :
    (Tally.start c).step S act = some (Tally.start c') := by
  have since : (Tally.start c).sinceAfter act = fun _ => 0 := by
    funext u
    unfold Tally.sinceAfter
    split
    · rfl
    · rw [show (Tally.start c).cfg.bumped act = none from silent]
      exact if_neg nofun
  have owes : (Tally.start c).owesAfter c' act = fun _ _ => false := by
    funext w u
    unfold Tally.owesAfter
    cases act with
    | run t ans =>
      by_cases own : u = t
      · simp [own, Tally.start]
      · have kept := others u fun same => own (Option.some.inj same).symm
        simp only [if_neg own, Tally.start, kept, Bool.false_or]
        by_cases awake : (c.thr u).pc.sleepsOn = none <;> simp [awake]
    | _ => rfl
  rw [Tally.step, show (Tally.start c).cfg.step S act = some c' from stepped, Option.map_some,
    since, owes]
  rfl

/-- An operation of a receiver that bumps no word. -/
theorem receiver_step {m m' : Mem} {pc pc' : Pc} (alive : c.dead (S.pid t) = false)
    (silent : pc.bumps = none)
    (ran : (c.receiver t m pc).run S t {} = some (c.receiver t m' pc')) :
    (Tally.start (c.receiver t m pc)).step S (.run t {}) =
      some (Tally.start (c.receiver t m' pc')) := by
  have alive : (c.receiver t m pc).dead (S.pid t) = false := alive
  refine Tally.start_step ?_ ?_ fun u other => ?_
  · simp [Cfg.step, Act.thread, alive, ran]
  · simpa [Cfg.bumped, Cfg.receiver] using silent
  · have ne : u ≠ t := fun same => other (same ▸ rfl)
    simp [Cfg.receiver, ne]

theorem receiver_goto (m : Mem) (pc pc' : Pc) :
    (c.receiver t m pc).goto t pc' = c.receiver t m pc' := by
  simp [Cfg.receiver, Cfg.goto]

theorem receiver_pc (m : Mem) (pc : Pc) : ((c.receiver t m pc).thr t).pc = pc := by
  simp [Cfg.receiver]

/-- A `tryRecv` on an empty queue. -/
theorem receiver_empty {m : Mem} {a : RecvAttempt}
    (empty : m.u64 .hdrReqTail = m.u64 .hdrReqHead) :
    (c.receiver t m (.recvTry a)).run S t {} =
      some (c.receiver t (m.set32 .hdrStatRecvEmpty (m.u32 .hdrStatRecvEmpty + 1))
        (.recvFailed a)) := by
  have found := recvLocked_empty S.shm ⟨m, []⟩ empty
  simp only [Cfg.run, receiver_pc]
  rw [show (c.receiver t m (.recvTry a)).mem = m from rfl, Exec.run, found]
  simp [Cfg.receiver, Cfg.goto, World.extend, Mem.writeAll, Mem.write]

theorem prompt_start (c : Cfg n) (act : Act n) : Prompt (Tally.start c) act :=
  fun _ _ _ => Nat.two_pow_pos 32

theorem meets_fallAsleep (alive : c.dead (S.pid t) = false) (idle : (c.thr t).pc = .idle)
    (empty : c.mem.u64 .hdrReqTail = c.mem.u64 .hdrReqHead) :
    Runs.Meets (Tally.step S) Prompt (Tally.start c) (fallAsleep t)
      (Tally.start (c.receiver t (c.mem.asleep 1) .recvAsleep)) := by
  let m₁ := c.mem.set32 .hdrStatRecvEmpty (c.mem.u32 .hdrStatRecvEmpty + 1)
  let m₂ := m₁.set32 .hdrStatRecvEmpty (m₁.u32 .hdrStatRecvEmpty + 1)
  let m₃ := m₂.set32 .hdrRecvWaiters (m₂.u32 .hdrRecvWaiters + 1)
  let f := c.mem.u32 .hdrRecvFutex
  have called : (Tally.start c).step S (.serve t) =
      some (Tally.start (c.receiver t c.mem (.recvTry .first))) := by
    refine Tally.start_step ?_ rfl fun u other => ?_
    · simp [Cfg.step, Act.thread, alive, idle, Cfg.receiver]
    · have ne : u ≠ t := fun same => other (same ▸ rfl)
      simp [Cfg.receiver, ne]
  have finds : (c.receiver t c.mem (.recvTry .first)).run S t {} =
      some (c.receiver t m₁ .recvLoadSeq) := receiver_empty empty
  have loads : (c.receiver t m₁ .recvLoadSeq).run S t {} =
      some (c.receiver t m₁ (.recvTry (.second f))) := by
    simp only [Cfg.run, receiver_pc, receiver_goto]
    rfl
  have findsAgain : (c.receiver t m₁ (.recvTry (.second f))).run S t {} =
      some (c.receiver t m₂ (.recvErr f)) := receiver_empty empty
  have goesOn : (c.receiver t m₂ (.recvErr f)).run S t {} =
      some (c.receiver t m₂ (.recvAddWaiters f)) := by
    simp only [Cfg.run, receiver_pc, receiver_goto]
    simp [Cfg.receiver]
  have joins : (c.receiver t m₂ (.recvAddWaiters f)).run S t {} =
      some (c.receiver t m₃ (.recvFutexWait f)) := by
    simp only [Cfg.run, receiver_pc]
    exact congrArg some (receiver_goto m₃ (.recvAddWaiters f) _)
  have waits : (c.receiver t m₃ (.recvFutexWait f)).run S t {} =
      some (c.receiver t m₃ .recvAsleep) := by
    simp only [Cfg.run, receiver_pc, Cfg.futexWait, receiver_goto]
    exact congrArg (fun pc => some (c.receiver t m₃ pc)) (if_pos rfl)
  have asleep : m₃ = c.mem.asleep 1 := by
    refine Mem.ext (funext fun l => ?_) rfl rfl
    simp only [m₃, m₂, m₁, Mem.asleep, Mem.set32_u32, reduceCtorEq, if_true, if_false]
    split
    · rfl
    · split
      · grind
      · rfl
  rw [← asleep]
  exact .cons (prompt_start _ _) called <|
    .cons (prompt_start _ _) (receiver_step alive rfl finds) <|
    .cons (prompt_start _ _) (receiver_step alive rfl loads) <|
    .cons (prompt_start _ _) (receiver_step alive rfl findsAgain) <|
    .cons (prompt_start _ _) (receiver_step alive rfl goesOn) <|
    .cons (prompt_start _ _) (receiver_step alive rfl joins) <|
    .cons (prompt_start _ _) (receiver_step alive rfl waits) (.nil _)

/-- Each of them falls asleep. -/
theorem meets_crowd (ts : List (Fin n)) (distinct : ts.Nodup) (alive : ∀ p, c.dead p = false)
    (idle : ∀ t ∈ ts, (c.thr t).pc = .idle) (empty : c.mem.u64 .hdrReqTail = c.mem.u64 .hdrReqHead)
    (thr : Fin n → Thread) (asleep : ∀ t ∈ ts, thr t = ⟨.recvAsleep, [], false, false⟩)
    (others : ∀ t, t ∉ ts → thr t = c.thr t) :
    Runs.Meets (Tally.step S) Prompt (Tally.start c) (ts.flatMap fallAsleep)
      (Tally.start { c with mem := c.mem.asleep (UInt32.ofNat ts.length), thr := thr }) := by
  induction ts generalizing c with
  | nil =>
    obtain rfl : thr = c.thr := funext fun t => others t List.not_mem_nil
    rw [List.length_nil, show UInt32.ofNat 0 = 0 from rfl, asleep_zero]
    exact .nil _
  | cons t ts ih =>
    obtain ⟨absent, distinct⟩ := List.nodup_cons.mp distinct
    have first := meets_fallAsleep (S := S) (alive (S.pid t)) (idle t List.mem_cons_self) empty
    have rest : ∀ t' ∈ ts, ((c.receiver t (c.mem.asleep 1) .recvAsleep).thr t').pc = .idle := by
      intro t' member
      have ne : t' ≠ t := by
        rintro rfl
        exact absent member
      simpa [Cfg.receiver, ne] using idle t' (List.mem_cons_of_mem _ member)
    have later := ih (c := c.receiver t (c.mem.asleep 1) .recvAsleep) distinct alive rest empty
      (fun t' member => asleep t' (List.mem_cons_of_mem _ member)) fun t' out => by
        by_cases same : t' = t
        · simp [same, Cfg.receiver, asleep t List.mem_cons_self]
        · rw [others t' (by simp [same, out])]
          simp [same, Cfg.receiver]
    rw [List.length_cons, UInt32.ofNat_add, show UInt32.ofNat 1 = 1 from rfl, ← asleep_asleep]
    exact first.append later

/-! ## The count wraps -/

/-- All goroutines but the last fall asleep in `recvWait`. -/
def allReceivers (n : Nat) : List (Act (n + 1)) :=
  ((List.finRange n).map Fin.castSucc).flatMap fallAsleep

/-- All goroutines but the last sleep in `recvWait`, and the mapping is fresh. -/
def sleepingCfg (n : Nat) : Cfg (n + 1) :=
  { freshCfg (n + 1) with thr := fun t =>
      ⟨if t = Fin.last n then .idle else .recvAsleep, [], false, false⟩ }

/-- All receivers fall asleep, and `recv_waiters` is 0 again. -/
theorem receivers_asleep {n : Nat} (S : Setup (n + 1)) (wraps : UInt32.ofNat n = 0) :
    Runs.Meets (Tally.step S) Prompt (Tally.start (freshCfg (n + 1))) (allReceivers n)
      (Tally.start (sleepingCfg n)) := by
  have meets := meets_crowd (S := S) (c := freshCfg (n + 1)) ((List.finRange n).map Fin.castSucc)
    (List.Nodup.map (Fin.castSucc_injective n) (List.nodup_finRange n)) (fun _ => rfl)
    (fun _ _ => rfl) rfl (sleepingCfg n).thr
    (fun t member => by
      obtain ⟨k, -, rfl⟩ := List.mem_map.mp member
      simp [sleepingCfg, Fin.castSucc_ne_last])
    (fun t out => by
      by_cases last : t = Fin.last n
      · simp [sleepingCfg, freshCfg, last]
      · obtain ⟨k, rfl⟩ := Fin.exists_castSucc_eq.mpr last
        exact absurd (List.mem_map.mpr ⟨k, List.mem_finRange k, rfl⟩) out)
  rw [List.length_map, List.length_finRange, wraps, asleep_zero] at meets
  exact meets

/-- Goroutines other than `t` stay where they are. -/
structure StaysApart (t : Fin n) (act : Act n) : Prop where
  thread : act.thread = some t
  woken : act.woken = []

theorem StaysApart.others (apart : StaysApart t act) (stepped : c.step S act = some c') (u : Fin n)
    (other : u ≠ t) : c'.thr u = c.thr u := by
  cases act with
  | run t' ans =>
    obtain rfl := Option.some.inj apart.thread
    rcases run_thr_of_ne (step_run stepped).2 other with same | woken
    · exact same
    · rw [show ans.woken = [] from apart.woken] at woken
      cases woken
  | die pid => cases apart.thread
  | cancelCtx t' | deadline t' =>
    obtain rfl := Option.some.inj apart.thread
    unfold Cfg.step at stepped
    split at stepped <;> cases stepped
    exact Function.update_of_ne other _ _
  | query t' req | serve t' | wakeup t' =>
    obtain rfl := Option.some.inj apart.thread
    unfold Cfg.step at stepped
    split at stepped
    · cases stepped
    · dsimp only at stepped
      split at stepped <;> cases stepped
      exact Function.update_of_ne other _ _

/-- What a goroutine that wakes nobody leaves alone. -/
structure Undisturbed (t : Fin n) (T T' : Tally n) : Prop where
  others : ∀ u ≠ t, T'.cfg.thr u = T.cfg.thr u
  owes : ∀ w u, T.owes w u = false → T'.owes w u = false
  dead : T'.cfg.dead = T.cfg.dead

theorem StaysApart.step (apart : StaysApart t act) (stepped : T.step S act = some T') :
    Undisturbed t T T' := by
  obtain ⟨moved, -, owes⟩ := Tally.step_eq stepped
  have others := apart.others moved
  refine ⟨others, fun w u free => ?_, ?_⟩
  · rw [owes]
    unfold Tally.owesAfter
    cases act with
    | run t' ans =>
      obtain rfl := Option.some.inj apart.thread
      by_cases own : u = t'
      · simp [own, own ▸ free]
      · simp only [if_neg own, free, others u own, Bool.false_or]
        by_cases awake : (T.cfg.thr u).pc.sleepsOn = none <;> simp [awake]
    | _ => exact free
  · rcases step_dead moved with same | ⟨pid, rfl, -⟩
    · exact same
    · cases apart.thread

/-- A run that stays apart from `t`. -/
theorem steps_apart (apart : ∀ act ∈ acts, StaysApart t act) (ran : T.steps S acts = some T') :
    Undisturbed t T T' := by
  induction acts generalizing T with
  | nil =>
    cases ran
    exact ⟨fun _ _ => rfl, fun _ _ => id, rfl⟩
  | cons act acts ih =>
    obtain ⟨T₁, stepped, rest⟩ := Option.bind_eq_some_iff.mp ran
    have first := (apart act List.mem_cons_self).step stepped
    have later := ih (fun act member => apart act (List.mem_cons_of_mem _ member)) rest
    exact ⟨fun u other => (later.others u other).trans (first.others u other),
      fun w u free => later.owes w u (first.owes w u free), later.dead.trans first.dead⟩

/-- The last goroutine sends a request and goes through `wakeConsumers`. -/
def oneSend (n : Nat) : List (Act (n + 1)) := .query (Fin.last n) [1] :: go (Fin.last n) 8

/-- It sees no waiter, and leaves its request queued. -/
def unseen (n : Nat) (S : Setup (n + 1)) : Bool :=
  decide (Runs.Always (Tally.step S) Prompt (Tally.start (sleepingCfg n)) (oneSend n)) &&
  ((Tally.start (sleepingCfg n)).steps S (oneSend n)).any fun T =>
    decide (queued T.cfg.mem = 1 ∧ (T.cfg.thr (Fin.last n)).pc.due ≠ some .recv)

/-- With 2^32 receivers asleep the count of waiters is 0: a request stays queued, and
nobody is left to wake them. -/
theorem requests_attended_wraps :
    ∃ acts : List (Act (2 ^ 32 + 1)), (∀ act ∈ acts, ∀ t, act.ends .recv t = false) ∧
      ∃ T, Runs.Meets (Tally.step (tinySetup _)) Prompt (Tally.start (freshCfg _)) acts T ∧
        T.cfg.sleepers (tinySetup _) .hdrRecvFutex ≠ [] ∧
        ¬ queued T.cfg.mem ≤ T.cfg.dues .recv + T.owing .recv := by
  have crowd := receivers_asleep (tinySetup (2 ^ 32 + 1)) rfl
  have seen : unseen (2 ^ 32) (tinySetup (2 ^ 32 + 1)) = true := by decide +kernel
  rw [unseen, Bool.and_eq_true, decide_eq_true_eq] at seen
  obtain ⟨T, ran, last⟩ := (Option.any_eq_true _ _).mp seen.2
  obtain ⟨one, done⟩ := of_decide_eq_true last
  have still : Undisturbed (Fin.last (2 ^ 32)) (Tally.start (sleepingCfg (2 ^ 32))) T :=
    steps_apart (fun act member => by
      rcases List.mem_cons.mp member with rfl | member
      · exact ⟨rfl, rfl⟩
      · obtain rfl := List.eq_of_mem_replicate member
        exact ⟨rfl, rfl⟩) ran
  have asleep : ∀ u ≠ Fin.last (2 ^ 32), T.cfg.thr u = ⟨.recvAsleep, [], false, false⟩ :=
    fun u other => by
    rw [still.others u other]
    exact congrArg (fun pc => (⟨pc, [], false, false⟩ : Thread)) (if_neg other)
  refine ⟨allReceivers (2 ^ 32) ++ oneSend (2 ^ 32), fun act member t => ?_, T,
    crowd.append ⟨ran, seen.1⟩, ?_, ?_⟩
  · simp only [allReceivers, fallAsleep, oneSend, go, List.mem_append, List.mem_flatMap,
      List.mem_cons, List.mem_replicate] at member
    rcases member with ⟨u, -, rfl | ⟨-, rfl⟩⟩ | rfl | ⟨-, rfl⟩ <;> rfl
  · refine List.ne_nil_of_mem (a := Fin.castSucc ⟨0, by decide⟩) (List.mem_filter.mpr
      ⟨List.mem_finRange _, decide_eq_true ⟨?_, ?_⟩⟩)
    · exact congrArg (fun th => th.pc.asleepOn) (asleep _ (Fin.castSucc_ne_last _))
    · rw [still.dead]
      rfl
  · have dues : T.cfg.dues .recv = 0 := Count.count_eq_zero.mpr fun u => decide_eq_false <| by
      by_cases last : u = Fin.last (2 ^ 32)
      · rwa [last]
      · rw [asleep u last]
        nofun
    have owing : T.owing .recv = 0 := Count.count_eq_zero.mpr fun u => still.owes .recv u rfl
    omega

end ReqRep
