import ReqRep.Machine.Courier

/-!
# Answers while the sections run access by access

What the users of the queue see of the machine with its critical sections is what
the histories beside the matching configuration hold, as long as no process dies.
So its answers are for the requests that were asked, too.
-/

namespace ReqRep

open BoundedQueue (pushed popped)

variable {n : Nat}

/-- An operation that leaves the queued ids alone neither queues nor takes. -/
theorem Post.step_still {S : Setup n} {P : Post n} {c' : Cfg n} {act : Act n}
    (queueOk : S.shm.QueueOk) (base : Base S P.cfg) (stepped : P.cfg.step S act = some c')
    (pending : c'.pending = P.cfg.pending) : P.step S act = some ⟨c', P.sent, P.received⟩ := by
  rw [Post.step, stepped]
  cases act with
  | run t ans =>
    obtain ⟨q, queue, ids⟩ := base.queue
    cases carries_of_run queueOk base queue ids (step_run stepped).2 with
    | neither sends receives =>
      show some (Post.mk c' (P.sent ++ P.cfg.sends S t) (P.received ++ P.cfg.receives S t)) = _
      rw [sends, receives, List.append_nil, List.append_nil]
    | sends id role sends receives queue' more =>
      rw [pending] at more
      exact absurd (congrArg List.length more) (by simp)
    | receives r rest first sends receives queue' less =>
      rw [pending] at less
      exact absurd (congrArg List.length less) (by simp)
  | query t req | serve t | cancelCtx t | deadline t | wakeup t | die pid => rfl

theorem View.Step.bumps_le_succ {S : Setup n} {v v' : View n} {label : Option Label}
    (step : v.Step S label v') (i : UInt32) : v'.bumps i ≤ v.bumps i + 1 := by
  cases step with
  | stutter => exact Nat.le_succ _
  | move live move => exact move.bumps_le_succ i
  | die pid => exact Nat.le_succ _

namespace Fine

variable {S : Setup n} {f f' : Cfg n} {c c' : ReqRep.Cfg n} {P : Post n} {t : Fin n} {act : Act n}

instance {ok : View n → Label → Prop} [∀ v l, Decidable (ok v l)] (f : Cfg n) :
    DecidablePred (f.Guarded S ok)
  | .run t ans _ =>
    inferInstanceAs (Decidable (f.lock.pc t = .idle →
      ReqRep.Guarded S.base ok f.cfg (.run t ans)))
  | .die pid => inferInstanceAs (Decidable (ReqRep.Guarded S.base ok f.cfg (.die pid)))
  | .query _ _ | .serve _ | .cancelCtx _ | .deadline _ | .wakeup _ | .recvTimeout _
  | .lockWakeup _ | .lockTimeout _ => isTrue trivial

/-! ## Deaths -/

/-- A process dies. -/
def Act.dies : Act n → Bool
  | .die _ => true
  | _ => false

theorem run_dead {ans : ReqRep.Answer n} {held : Mutex.Answer n}
    (ran : f.run S t ans held = some f') : f'.cfg.dead = f.cfg.dead := by
  unfold Cfg.run at ran
  split at ran
  · split at ran
    · cases ran
      rfl
    split at ran
    · obtain ⟨d, moved, rfl⟩ := Option.map_eq_some_iff.mp ran
      exact ReqRep.run_dead moved
    · cases ran
      rfl
  · cases ran
    rfl
  · split at ran
    · cases ran
      rfl
    · cases ran
    · obtain ⟨l, unlocked, rfl⟩ := Option.map_eq_some_iff.mp ran
      exact finish_dead
  · obtain ⟨l, moved, rfl⟩ := Option.map_eq_some_iff.mp ran
    rfl

/-- Who is dead changes at a death only. -/
theorem step_dead (stepped : f.step S act = some f') :
    f'.cfg.dead = f.cfg.dead ∨
      ∃ pid, act = .die pid ∧ f'.cfg.dead = Function.update f.cfg.dead pid true := by
  cases happens_of_step stepped with
  | run alive ran => exact .inl (run_dead ran)
  | outside moved apart lives =>
    rcases ReqRep.step_dead moved with same | ⟨pid, dies, -⟩
    · exact .inl same
    · exact absurd dies (lives pid)
  | mutex moved kind => exact .inl rfl
  | die pid stepped =>
    cases stepped
    exact .inr ⟨pid, rfl, rfl⟩

/-! ## The histories -/

/-- What a section does to the histories is what its caller sees of the queue. -/
theorem carries_of_trace {p : Body Outcome} {outcome : Outcome} {ws : List Write}
    (arrived : body S.shm (c.thr t) = some p) (traced : trace p c.mem = some (outcome, ws)) :
    c.sends S.base t = pushed [seen (c.thr t) outcome] ∧
      c.receives S.base t = popped [seen (c.thr t) outcome] := by
  unfold body at arrived
  split at arrived
  · next a id here =>
    cases arrived
    rw [trace, Stepwise.Program.exec_map, ByAccess.exec_sendLocked, Exec.map_apply] at traced
    cases ran : sendLocked S.shm (c.thr t).req (idSlot id) (idGen id) ⟨c.mem, []⟩ with
    | none =>
      rw [ran] at traced
      cases traced
    | some out =>
      obtain ⟨sent, w⟩ := out
      rw [ran] at traced
      cases traced
      have ran : (sendLocked S.base.shm (c.thr t).req (idSlot id) (idGen id)).run c.mem =
          some (sent, w) := ran
      cases sent <;> simp [ReqRep.Cfg.sends, ReqRep.Cfg.receives, here, ran, seen, pushed, popped]
  · next a here =>
    cases arrived
    rw [trace, Stepwise.Program.exec_map, ByAccess.exec_recvLocked, Exec.map_apply] at traced
    cases ran : recvLocked S.shm ⟨c.mem, []⟩ with
    | none =>
      rw [ran] at traced
      cases traced
    | some out =>
      obtain ⟨got, w⟩ := out
      rw [ran] at traced
      cases traced
      have ran : (recvLocked S.base.shm).run c.mem = some (got, w) := ran
      cases got <;> simp [ReqRep.Cfg.sends, ReqRep.Cfg.receives, here, ran, seen, pushed, popped]
  · cases arrived

/-- The histories beside the matching configuration are what the users of the
queue saw. -/
structure Posted (S : Setup n) (f : Cfg n) (P : Post n) : Prop where
  serving : ∃ q, Serving S f P.cfg q
  sent : P.sent = pushed f.events
  received : P.received = popped f.events

namespace Posted

/-- A step in which no process dies. -/
theorem step (ok : S.shm.QueueOk) (posted : Posted S f P) (stepped : f.step S act = some f')
    (lives : ∀ pid, act ≠ .die pid) :
    ∃ P', Posted S f' P' ∧ (P' = P ∨ ∃ coarse, P.step S.base coarse = some P' ∧
      ∀ ok, f.Guarded S ok act → ReqRep.Guarded S.base ok P.cfg coarse) := by
  obtain ⟨q, serving⟩ := posted.serving
  obtain ⟨c', followed⟩ := serving.matched.step stepped lives
  have after := serving.follow ok followed
  cases followed with
  | waits same =>
    refine ⟨P, ⟨after, ?_, ?_⟩, .inl rfl⟩
    · rw [same]
      exact posted.sent
    · rw [same]
      exact posted.received
  | moves coarse c' ws moved mem others pending guarded same =>
    have still := Post.step_still ok serving.base moved pending
    refine ⟨_, ⟨after, ?_, ?_⟩, .inr ⟨coarse, still, guarded⟩⟩
    · rw [same]
      exact posted.sent
    · rw [same]
      exact posted.received
  | returns t p outcome ws arrived traced moved events =>
    obtain ⟨sends, receives⟩ := carries_of_trace arrived traced
    refine ⟨⟨_, P.sent ++ P.cfg.sends S.base t, P.received ++ P.cfg.receives S.base t⟩,
      ⟨after, ?_, ?_⟩, .inr ⟨.run t {}, ?_, fun ok _ => ?_⟩⟩
    · rw [sends, posted.sent, events, pushed, pushed, pushed, List.filterMap_append]
    · rw [receives, posted.received, events, popped, popped, popped, List.filterMap_append]
    · rw [Post.step, moved]
      rfl
    · rw [ReqRep.Guarded, label_of_body arrived]
      trivial

theorem view_eq (posted : Posted S f P) : P.cfg.view = f.cfg.view := by
  obtain ⟨q, serving⟩ := posted.serving
  exact serving.matched.view_eq

/-- While nobody dies, each step increments a generation once at most. -/
theorem counts (ok : S.shm.QueueOk) (posted : Posted S f P) {acts : List (Act n)}
    (ran : f.steps S acts = some f') (living : ∀ act ∈ acts, act.dies = false) :
    f'.cfg.dead = f.cfg.dead ∧ ∀ i, f'.cfg.view.bumps i ≤ f.cfg.view.bumps i + acts.length := by
  induction acts generalizing f P with
  | nil =>
    cases ran
    exact ⟨rfl, fun i => le_refl _⟩
  | cons act acts ih =>
    obtain ⟨f₁, stepped, rest⟩ := Option.bind_eq_some_iff.mp ran
    have lives : ∀ pid, act ≠ .die pid := by
      rintro pid rfl
      cases living _ List.mem_cons_self
    obtain ⟨P₁, posted₁, moved⟩ := posted.step ok stepped lives
    have one : ∀ i, P₁.cfg.view.bumps i ≤ P.cfg.view.bumps i + 1 := by
      rcases moved with same | ⟨coarse, moved, -⟩
      · rw [same]
        exact fun i => Nat.le_succ _
      · obtain ⟨q, serving⟩ := posted.serving
        exact (step_simulated ok serving.base (Post.step_eq moved)).2.bumps_le_succ
    have dead : f₁.cfg.dead = f.cfg.dead := by
      rcases step_dead stepped with same | ⟨pid, dies, -⟩
      · exact same
      · exact absurd dies (lives pid)
    obtain ⟨dead', bumps⟩ :=
      ih posted₁ rest fun act member => living act (List.mem_cons_of_mem _ member)
    refine ⟨dead'.trans dead, fun i => ?_⟩
    have first := one i
    have later := bumps i
    rw [posted.view_eq, posted₁.view_eq] at first
    rw [List.length_cons]
    omega

end Posted

/-! ## Any run -/

theorem Ready.posted (ready : Ready f) (start : Start S.base f.cfg) (fresh : f.events = []) :
    Posted S f (.start f.cfg) := by
  refine ⟨⟨[], ready.serving start fresh⟩, ?_, ?_⟩
  · rw [fresh]
    rfl
  · rw [fresh]
    rfl

/-- Runs without deaths that are not too long. -/
theorem Ready.healthy (ok : S.shm.QueueOk) (ready : Ready f) (start : Start S.base f.cfg)
    (fresh : f.events = []) {acts : List (Act n)} (ran : f.steps S acts = some f')
    (living : ∀ act ∈ acts, act.dies = false) (short : acts.length < 2 ^ 32) :
    f'.cfg.view.Healthy := by
  obtain ⟨dead, bumps⟩ := (ready.posted start fresh).counts ok ran living
  refine ⟨fun pid => ?_, fun i => ?_⟩
  · exact (congrFun dead pid).trans (start.alive pid)
  · have few := bumps i
    rw [show f.cfg.view.bumps i = 0 from start.bumps i] at few
    omega

/-- A process has died, or the histories keep what they keep beside the machine with
atomic sections. -/
def Answering (S : Setup n) (g₀ : UInt32 → UInt32) (f : Cfg n) : Prop :=
  (∃ pid, f.cfg.dead pid = true) ∨
    ∃ P, Posted S f P ∧ (P.cfg.view.Healthy → Delivers S.base g₀ P)

/-- A step keeps what the histories keep, or a process has died. -/
theorem Answering.step {g₀ : UInt32 → UInt32} (ok : S.shm.QueueOk) (inv : Answering S g₀ f)
    (guarded : f.Guarded S Routable act) (stepped : f.step S act = some f') :
    Answering S g₀ f' := by
  by_cases dies : ∃ pid, act = .die pid
  · obtain ⟨pid, rfl⟩ := dies
    cases stepped
    exact .inl ⟨pid, Function.update_self ..⟩
  have lives : ∀ pid, act ≠ .die pid := fun pid same => dies ⟨pid, same⟩
  rcases inv with ⟨pid, dead⟩ | ⟨P, posted, delivers⟩
  · rcases step_dead stepped with same | ⟨pid', dies, -⟩
    · exact .inl ⟨pid, (congrFun same pid).trans dead⟩
    · exact absurd dies (lives pid')
  · obtain ⟨P', posted', same | ⟨coarse, moved, meets⟩⟩ := posted.step ok stepped lives
    · subst same
      exact .inr ⟨P', posted', delivers⟩
    · refine .inr ⟨P', posted', fun healthy' => ?_⟩
      obtain ⟨q, serving⟩ := posted.serving
      obtain ⟨-, step⟩ := step_simulated ok serving.base (Post.step_eq moved)
      have healthy := step.healthy healthy'
      exact (delivers healthy).step ok serving.base healthy healthy' (meets _ guarded) moved

/-- Whatever the interleaving of the accesses of the sections: while no process
dies, ids do not wrap, and the checks of every party hold when it acts on them,
when a `Query` is about to return some bytes, exactly one delivery under its id was
received, that of its own request, and the bytes are the response of the handler that
was given it. -/
theorem interleaved_answers (ok : S.shm.QueueOk) (ready : Ready f) (start : Start S.base f.cfg)
    (fresh : f.events = []) {acts : List (Act n)} (ran : f.steps S acts = some f')
    (routable : Runs.Always (Cfg.step S) (Cfg.Guarded S Routable) f acts)
    (healthy : f'.cfg.view.Healthy) {id : UInt64} {bytes : List UInt8}
    (answers : (f'.cfg.thr t).pc = .answer id bytes) :
    ((popped f'.events).filter fun d => d.2 = id) = [((f'.cfg.thr t).req, id)] ∧
      .wrote id bytes ∈ f'.cfg.log := by
  have kept : Answering S f.cfg.gen f' :=
    Runs.invariant (Answering S f.cfg.gen)
      (fun _ _ _ inv guarded stepped => inv.step ok guarded stepped) ran routable
      (.inr ⟨_, ready.posted start fresh, fun _ => .start start⟩)
  rcases kept with ⟨pid, dead⟩ | ⟨P, posted, delivers⟩
  · have alive := healthy.alive pid
    rw [show f'.cfg.view.dead pid = f'.cfg.dead pid from rfl, dead] at alive
    cases alive
  · obtain ⟨q, serving⟩ := posted.serving
    rw [← serving.matched.view_eq] at healthy
    have threads : P.cfg.thr = f'.cfg.thr := by
      rw [serving.matched.rest]
      rfl
    have log : P.cfg.log = f'.cfg.log := by
      rw [serving.matched.rest]
      rfl
    have delivers := delivers healthy
    have answered := delivers.couriered.answer delivers.routed (threads ▸ answers)
    rwa [threads, log, posted.received] at answered

/-- The server comes to the mutex while the client fills the arena, and answers. -/
def overlappingAnswer : List (Act 2) :=
  [[.query 0 [1]], go 0 14, [.serve 1], go 1 3, go 0 14, go 1 18,
    [.run 1 { reply := some [7, 8] } {}], go 1 9, go 0 8].flatten

theorem interleaved_answers_overlapping :
    ∃ f', (fresh 2).steps tinySetup overlappingAnswer = some f' ∧
      ((popped f'.events).filter fun d => d.2 = packId 1 0) = [([1], packId 1 0)] ∧
      .wrote (packId 1 0) [7, 8] ∈ f'.cfg.log := by
  have ends : ((fresh 2).steps tinySetup overlappingAnswer).any (fun f =>
      decide ((f.cfg.thr 0).pc = .answer (packId 1 0) [7, 8] ∧ (f.cfg.thr 0).req = [1])) =
        true := by
    decide +kernel
  obtain ⟨f', ran, last⟩ := (Option.any_eq_true _ _).mp ends
  obtain ⟨answers, asked⟩ := of_decide_eq_true last
  have healthy : f'.cfg.view.Healthy :=
    (fresh_ready 2).healthy (by decide) fresh_start rfl ran (by decide) (by decide)
  have routable : Runs.Always (Cfg.step tinySetup) (Cfg.Guarded tinySetup Routable)
      (fresh 2) overlappingAnswer := by
    decide +kernel
  obtain ⟨own, wrote⟩ :=
    interleaved_answers (by decide) (fresh_ready 2) fresh_start rfl ran routable healthy answers
  rw [asked] at own
  exact ⟨f', ran, own, wrote⟩

end Fine

end ReqRep
