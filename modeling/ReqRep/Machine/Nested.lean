import ReqRep.Machine.Frame

/-!
# Inside the routines

Some operations come right behind another one of the same routine, and only there:
the owner store behind the CAS that took a slot, the state store behind the owner
store. No subroutine goes back to them.
-/

namespace ReqRep

variable {n : Nat} {S : Setup n} {c c' : Cfg n} {t : Fin n} {ans : Answer n}

namespace Pc

/-- A counter to which a subroutine may go back. -/
def Resumable : Pc → Prop
  | .recOwner .. | .recAlive .. | .acqOwner .. | .recFree .. | .releaseState .. | .cancelOwner .. =>
    False
  | .wakeBump _ next | .wakeLoad _ next | .wakeCall _ next | .releaseOwner _ next
  | .cancelGen _ next | .cancelCas _ next | .cancelBump _ next | .cancelLoad _ next
  | .cancelWake _ next => next.Resumable
  | _ => True

/-- The subroutine that the goroutine is in, if any, goes back to such a counter. -/
def WellNested : Pc → Prop
  | .releaseState _ next | .cancelOwner _ next => next.Resumable
  | .recOwner .. | .recAlive .. | .acqOwner .. | .recFree .. => True
  | pc => pc.Resumable

theorem WellNested.of_resumable {pc : Pc} (resumable : pc.Resumable) : pc.WellNested := by
  cases pc <;> first
    | exact resumable
    | exact resumable.elim

/-! ## Continuations -/

variable {s : Shm}

@[simp] theorem resumable_sendFailed (a : Attempt) (noSlots : Bool) :
    (sendFailed a noSlots).Resumable := by
  cases a <;> trivial

@[simp] theorem resumable_sent (a : Attempt) (id : UInt64) : (sent a id).Resumable := by
  unfold sent
  split
  · trivial
  · exact resumable_sendFailed a false

@[simp] theorem resumable_recover (a : Attempt) (i : UInt32) : (recover s a i).Resumable := by
  unfold recover
  split
  · trivial
  · exact resumable_sendFailed a true

@[simp] theorem resumable_scan (a : Attempt) (hint i : UInt32) : (scan s a hint i).Resumable := by
  unfold scan
  split
  · trivial
  · exact resumable_recover a 0

@[simp] theorem resumable_acquired (a : Attempt) (slot gen : UInt32) (scan : Bool) :
    (acquired a slot gen scan).Resumable := by
  cases scan <;> trivial

@[simp] theorem resumable_recvFailed (a : RecvAttempt) : (recvFailed a).Resumable := by
  cases a <;> trivial

@[simp] theorem resumable_waitReturn (id : UInt64) (registered : Bool)
    (result : Option (List UInt8)) : (waitReturn id registered result).Resumable := by
  cases registered <;> cases result <;> trivial

@[simp] theorem resumable_readNext (id : UInt64) (registered : Bool) (length : Nat)
    (result : List UInt8) : (readNext id registered length result).Resumable := by
  unfold readNext
  split
  · trivial
  · exact resumable_waitReturn id registered (some result)

@[simp] theorem resumable_writeNext (id : UInt64) (response : List UInt8) (k : Nat) :
    (writeNext id response k).Resumable := by
  unfold writeNext
  split <;> trivial

theorem resumable_awake {pc : Pc} {l : Loc32} (asleep : pc.asleepOn = some l) :
    pc.awake.Resumable := by
  cases pc <;> trivial

end Pc

/-! ## Steps -/

/-- The steps to counters that are not resumable, with what they have loaded. -/
inductive Enters (c : Cfg n) : Pc → Pc → Prop where
  | take (a : Attempt) (hint i slot : UInt32) : Enters c (.acqCas a hint i) (.acqOwner a slot true)
  | grab (a : Attempt) (i : UInt32) : Enters c (.recGrab a i) (.acqOwner a i false)
  | look (a : Attempt) (i : UInt32) : Enters c (.recState a i) (.recOwner a i (c.state i))
  | ask (a : Attempt) (i state pid : UInt32) :
      Enters c (.recOwner a i state) (.recAlive a i state pid)
  | free (a : Attempt) (i state : UInt32) : Enters c (.recClear a i state) (.recFree a i state)
  | release (id : UInt64) (next : Pc) : Enters c (.releaseOwner id next) (.releaseState id next)
  | cancel (id : UInt64) (next : Pc) : Enters c (.cancelCas id next) (.cancelOwner id next)

/-- An operation goes to a resumable counter, or it is one of those. -/
theorem run_enters (ran : c.run S t ans = some c') (nested : (c.thr t).pc.WellNested) :
    (c'.thr t).pc.Resumable ∨ Enters c (c.thr t).pc (c'.thr t).pc := by
  have woke : ∀ {l k pc}, (c.futexWake S l k ans.woken).map (·.goto t pc) = some c' →
      pc.Resumable → (c'.thr t).pc.Resumable := by
    intro l k pc mapped resumable
    obtain ⟨c₀, -, rfl⟩ := Option.map_eq_some_iff.mp mapped
    rwa [goto_pc]
  cases here : (c.thr t).pc with
  | wakeCall w next | cancelWake id next =>
    rw [here] at nested
    simp only [Cfg.run, here] at ran
    exact .inl (woke ran nested)
  | writeWake id =>
    simp only [Cfg.run, here] at ran
    exact .inl (woke ran trivial)
  | acqCas a hint i =>
    simp only [Cfg.run, here] at ran
    split at ran
    · obtain rfl := Option.some.inj ran
      rw [goto_pc]
      exact .inr (.take a hint i _)
    · obtain rfl := Option.some.inj ran
      rw [goto_pc]
      exact .inl (Pc.resumable_scan ..)
  | recGrab a i =>
    simp only [Cfg.run, here] at ran
    split at ran
    · obtain rfl := Option.some.inj ran
      rw [goto_pc]
      exact .inr (.grab a i)
    · obtain rfl := Option.some.inj ran
      rw [goto_pc]
      exact .inl (Pc.resumable_recover a _)
  | recState a i =>
    simp only [Cfg.run, here] at ran
    split at ran
    · obtain rfl := Option.some.inj ran
      rw [goto_pc]
      exact .inl (Pc.resumable_recover a _)
    · obtain rfl := Option.some.inj ran
      rw [goto_pc]
      exact .inr (.look a i)
  | recOwner a i state =>
    simp only [Cfg.run, here] at ran
    split at ran
    · obtain rfl := Option.some.inj ran
      rw [goto_pc]
      exact .inl (Pc.resumable_recover a _)
    · obtain rfl := Option.some.inj ran
      rw [goto_pc]
      exact .inr (.ask a i state _)
  | recClear a i state =>
    simp only [Cfg.run, here] at ran
    obtain rfl := Option.some.inj ran
    rw [goto_pc]
    exact .inr (.free a i state)
  | releaseOwner id next =>
    simp only [Cfg.run, here] at ran
    obtain rfl := Option.some.inj ran
    rw [goto_pc]
    exact .inr (.release id next)
  | cancelCas id next =>
    rw [here] at nested
    simp only [Cfg.run, here] at ran
    split at ran
    · obtain rfl := Option.some.inj ran
      rw [goto_pc]
      exact .inr (.cancel id next)
    · obtain rfl := Option.some.inj ran
      rw [goto_pc]
      exact .inl nested
  | _ =>
    rw [here] at nested
    simp only [Cfg.run, Cfg.futexWait, here] at ran
    repeat' split at ran
    all_goals cases ran
    all_goals
      rw [goto_pc]
      left
    all_goals first
      | exact nested
      | trivial
      | simp [Pc.Resumable]

/-- What a step does to the counter of the goroutine that takes it, unless it runs. -/
theorem step_resumable {act : Act n} (stepped : c.step S act = some c')
    (own : act.thread = some t) : (∃ ans, act = .run t ans) ∨ (c'.thr t).pc = (c.thr t).pc ∨
      (c'.thr t).pc.Resumable := by
  unfold Cfg.step at stepped
  split at stepped
  · cases stepped
  cases act with
  | run t' ans =>
    obtain rfl : t' = t := Option.some.inj own
    exact .inl ⟨ans, rfl⟩
  | query t' req =>
    obtain rfl : t' = t := Option.some.inj own
    dsimp only at stepped
    split at stepped <;> cases stepped
    simp only [Function.update_self]
    split <;> exact .inr (.inr trivial)
  | serve t' =>
    obtain rfl : t' = t := Option.some.inj own
    dsimp only at stepped
    split at stepped <;> cases stepped
    simp only [Function.update_self]
    exact .inr (.inr trivial)
  | cancelCtx t' | deadline t' =>
    obtain rfl : t' = t := Option.some.inj own
    cases stepped
    exact .inr (.inl (by simp))
  | wakeup t' =>
    obtain rfl : t' = t := Option.some.inj own
    dsimp only at stepped
    split at stepped
    · cases stepped
    · next asleep =>
      cases stepped
      rw [goto_pc]
      obtain ⟨l, on⟩ := Option.ne_none_iff_exists'.mp asleep
      exact .inr (.inr (Pc.resumable_awake on))
  | die pid => cases own

/-- Every step keeps the nesting. -/
theorem step_wellNested {act : Act n} (stepped : c.step S act = some c')
    (nested : ∀ t, (c.thr t).pc.WellNested) (t : Fin n) : (c'.thr t).pc.WellNested := by
  by_cases own : act.thread = some t
  · rcases step_resumable stepped own with ⟨ans, rfl⟩ | same | resumable
    · rcases run_enters (step_run stepped).2 (nested t) with resumable | enters
      · exact .of_resumable resumable
      · have before := nested t
        generalize (c.thr t).pc = pc, (c'.thr t).pc = pc' at enters before ⊢
        cases enters with
        | release id next | cancel id next => exact before
        | _ => trivial
    · rw [same]
      exact nested t
    · exact .of_resumable resumable
  · rcases step_thr_of_ne stepped own with same | ⟨⟨l, asleep⟩, awake⟩
    · rw [same]
      exact nested t
    · rw [awake]
      exact .of_resumable (Pc.resumable_awake asleep)

end ReqRep
