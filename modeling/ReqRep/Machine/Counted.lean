import ReqRep.Machine.Sleep
import ReqRep.Machine.Tally

/-!
# The counts of waiters

`recv_waiters`, `send_waiters`, `slot_waiters` and the `resp_waiters` of every slot
count the goroutines between their increment and their decrement, the dead ones
included: a process that dies there leaves its increment behind, and nothing else
is ever left behind.
-/

namespace ReqRep

variable {n : Nat} {S : Setup n} {c c' : Cfg n}

/-- Every count of waiters is the number of goroutines that are registered. -/
structure WaitersCount (c : Cfg n) : Prop where
  words : ∀ w, c.waiting w = UInt32.ofNat (c.registered w)
  slots : ∀ i, c.waiters i = UInt32.ofNat (Count.count (Watch.counts i) c.watch)

/-- The counts of the three wake words, over a run with its tally. -/
theorem words_counted (queueOk : S.shm.QueueOk) {acts : List (Act n)} (start : Start S c)
    (none : ∀ w, c.waiting w = 0) (ran : c.steps S acts = some c') (w : WakeWord) :
    c'.waiting w = UInt32.ofNat (c'.registered w) := by
  have tallied := Tally.steps_cfg S (Tally.start c) acts
  rw [show (Tally.start c).cfg = c from rfl, ran] at tallied
  obtain ⟨T, ranT, rfl⟩ := Option.map_eq_some_iff.mp tallied
  have kept : Tally.Tallied S T :=
    @Runs.invariant _ _ _ (fun _ _ => True) _ _ _ (Tally.Tallied S)
      (fun _ _ _ before _ stepped => before.step queueOk stepped) ranT
      (.of_forall fun _ _ => trivial) (.start start none)
  exact kept.counted w

/-- The counts of the slots, over a run. -/
theorem slots_counted (queueOk : S.shm.QueueOk) {acts : List (Act n)} (base : Base S c)
    (before : ∀ i, c.waiters i = UInt32.ofNat (Count.count (Watch.counts i) c.watch))
    (ran : c.steps S acts = some c') (i : UInt32) :
    c'.waiters i = UInt32.ofNat (Count.count (Watch.counts i) c'.watch) := by
  induction acts generalizing c with
  | nil =>
    cases ran
    exact before i
  | cons act acts ih =>
    obtain ⟨c₁, stepped, rest⟩ := Option.bind_eq_some_iff.mp ran
    refine ih (step_simulated queueOk base stepped).1 (fun j => ?_) rest
    cases mover : act.thread with
    | some t => exact (step_watches queueOk base mover stepped).waiters_step before j
    | none =>
      cases act with
      | die pid =>
        cases stepped
        exact before j
      | _ => cases mover

/-- In every run, whatever the interleaving and whoever dies, every count of
waiters is the number of goroutines that have incremented it and not yet
decremented it. When all calls have returned, every count is back to 0. -/
theorem waiters_counted (queueOk : S.shm.QueueOk) {acts : List (Act n)} (start : Start S c)
    (words : ∀ w, c.waiting w = 0) (slots : ∀ i, c.waiters i = 0)
    (ran : c.steps S acts = some c') :
    WaitersCount c' ∧ ((∀ t, (c'.thr t).pc = .idle) →
      (∀ w, c'.waiting w = 0) ∧ ∀ i, c'.waiters i = 0) := by
  have nobody : ∀ i, Count.count (Watch.counts i) c.watch = 0 := by
    intro i
    refine Count.count_eq_zero.mpr fun t => ?_
    rw [Cfg.watch, start.idle t]
    rfl
  have before : ∀ i, c.waiters i = UInt32.ofNat (Count.count (Watch.counts i) c.watch) := by
    intro i
    rw [slots i, nobody i]
    rfl
  have counts : WaitersCount c' :=
    ⟨words_counted queueOk start words ran, slots_counted queueOk start.base before ran⟩
  refine ⟨counts, fun idle => ⟨fun w => ?_, fun i => ?_⟩⟩
  · have none : c'.registered w = 0 := by
      refine Count.count_eq_zero.mpr fun t => ?_
      rw [idle t]
      rfl
    rw [counts.words w, none]
    rfl
  · have none : Count.count (Watch.counts i) c'.watch = 0 := by
      refine Count.count_eq_zero.mpr fun t => ?_
      rw [Cfg.watch, idle t]
      rfl
    rw [counts.slots i, none]
    rfl

/-- A server falls asleep and dies; another one falls asleep beside it. -/
def deadSleeper : List (Act 2) :=
  [[.serve 0], go 0 5, [.die 1, .serve 1], go 1 5].flatten

theorem waiters_counted_deadSleeper :
    ∃ c', (freshCfg 2).steps (tinySetup 2) deadSleeper = some c' ∧ WaitersCount c' ∧
      c'.waiting .recv = 2 := by
  have ends : ((freshCfg 2).steps (tinySetup 2) deadSleeper).any (fun c =>
      decide (c.registered .recv = 2)) = true := by
    decide +kernel
  obtain ⟨c', ran, last⟩ := (Option.any_eq_true _ _).mp ends
  have counts := (waiters_counted (by decide) (freshCfg_start 2)
    (by intro w; cases w <;> rfl) (fun _ => rfl) ran).1
  refine ⟨c', ran, counts, ?_⟩
  rw [counts.words, of_decide_eq_true last]
  rfl

end ReqRep
