import ReqRep.Machine.Vigil
import ReqRep.Queue.Accounting

/-!
# No request is stranded

While a receiver sleeps, each queued request has a sender that has not finished
`wakeConsumers` or a receiver that was woken and has not done its next `tryRecv`,
as long as `recv_waiters` does not wrap.
-/

namespace ReqRep

variable {n : Nat} {S : Setup n} {T T' : Tally n} {c c' : Cfg n} {t u : Fin n} {act : Act n}
  {acts : List (Act n)}

/-! ## Receivers and their contexts -/

/-- Only a call leads into `recvWait`. -/
theorem Signals.receives {woken : List (Fin n)} (signals : Signals S c t woken c')
    (flat : (c.thr t).pc.Flat) (receives : (c'.thr t).pc.receives = true) :
    (c.thr t).pc.receives = true := by
  have off : ∀ {pc : Pc}, (c'.thr t).pc = pc → pc.receives = false →
      (c.thr t).pc.receives = true := by
    intro pc here outside
    rw [here, outside] at receives
    cases receives
  cases signals with
  | quiet c₀ pc agrees glides now | wakes i k c₀ pc woke glides now =>
    subst now
    rw [goto_pc] at receives
    exact glides.enters receives
  | quit w next here none now | call w next c₀ here woke now =>
    subst now
    rw [here] at flat
    exact off (goto_pc ..) (Pc.receives_of_plain flat.1)
  | load s here now | leave s here now =>
    subst now
    cases s with
    | send noSlots => exact off (goto_pc ..) rfl
    | recv => rw [here]; rfl
  | join s f here now =>
    subst now
    cases s with
    | send noSlots => exact off (goto_pc ..) rfl
    | recv => rw [here]; rfl
  | wait s f here now =>
    rw [here]
    cases s with
    | send noSlots =>
      rw [now, Cfg.futexWait, goto_pc] at receives
      split at receives <;> cases receives
    | recv => rfl
  | empty a c₀ here none agrees now => rw [here]; rfl
  | scan a here now | pass a hint i here busy now =>
    subst now
    exact off (goto_pc ..) (Pc.receives_of_plain (Pc.within_scan ..).plain)
  | recover a i here now =>
    subst now
    exact off (goto_pc ..) (Pc.receives_of_plain (Pc.within_recover ..).plain)
  | bump w next here now | enqueue a id c₀ here room agrees now
  | refuse a id c₀ here refused agrees now | dequeue a id c₀ here first agrees now
  | take a hint i here was now | release id next here now | cancel id next here now =>
    subst now
    exact off (goto_pc ..) rfl
  | condemn c₀ pc gone thr seq waiting pending within now =>
    subst now
    obtain ⟨a, -, after⟩ := within
    refine off (goto_pc ..) ?_
    rcases after with attempt | within | ⟨next, rfl, -⟩
    · cases pc <;> first | rfl | cases attempt
    · exact Pc.receives_of_plain within.plain
    · rfl

/-- The context of a goroutine in `recvWait` has not ended. -/
def Cfg.Uncancelled (c : Cfg n) : Prop :=
  ∀ u, (c.thr u).pc.receives = true → (c.thr u).ctxErr = false

theorem receives_awake {pc : Pc} (receives : pc.awake.receives = true) : pc.receives = true := by
  cases pc <;> exact receives

/-- A step cancels no receiver whose context has not ended. -/
theorem Cfg.Uncancelled.step (uncancelled : c.Uncancelled) (queueOk : S.shm.QueueOk)
    (base : Base S c)
    (flat : ∀ u, (c.thr u).pc.Flat) (stepped : c.step S act = some c')
    (context : ∀ t, act.ends .recv t = true → (c.thr t).pc.receives = false) : c'.Uncancelled := by
  intro u receives
  by_cases own : act.thread = some u
  · cases act with
    | run t ans =>
      obtain rfl := Option.some.inj own
      obtain ⟨-, ran⟩ := step_run stepped
      rw [(run_context ran _).1]
      have signals := (run_signalled queueOk base (flat _) ran).signals
      exact uncancelled _ (signals.receives (flat _) receives)
    | die pid => cases own
    | query t req | serve t =>
      obtain rfl := Option.some.inj own
      unfold Cfg.step at stepped
      split at stepped
      · cases stepped
      · dsimp only at stepped
        split at stepped <;> cases stepped
        simp only [Function.update_self]
    | cancelCtx t =>
      obtain rfl := Option.some.inj own
      have outside := context t (by simp [Act.ends])
      unfold Cfg.step at stepped
      split at stepped <;> cases stepped
      simp only [Function.update_self, outside] at receives
      cases receives
    | deadline t =>
      obtain rfl := Option.some.inj own
      unfold Cfg.step at stepped
      split at stepped <;> cases stepped
      simp only [Function.update_self] at receives ⊢
      exact uncancelled t receives
    | wakeup t =>
      obtain rfl := Option.some.inj own
      unfold Cfg.step at stepped
      split at stepped
      · cases stepped
      · dsimp only at stepped
        split at stepped <;> cases stepped
        rw [goto_thr_self] at receives ⊢
        exact uncancelled t (receives_awake receives)
  · rcases step_thr_of_ne stepped own with same | ⟨-, awake⟩
    · rw [same] at receives ⊢
      exact uncancelled u receives
    · rw [awake] at receives ⊢
      exact uncancelled u (receives_awake receives)

/-! ## The account of the receivers -/

/-- Fewer than 2^32 receivers are registered, the word is bumped fewer than 2^32 times
between a load and the wait, and no context of a receiver is cancelled. -/
structure Attentive (T : Tally n) (act : Act n) : Prop where
  few : T.cfg.registered .recv < 2 ^ 32
  bumps : ∀ t ∈ act.runner, (T.cfg.thr t).pc.registeredOn = some .recv → T.since t < 2 ^ 32
  context : ∀ t, act.ends .recv t = true → (T.cfg.thr t).pc.receives = false

instance (T : Tally n) (act : Act n) : Decidable (Attentive T act) :=
  decidable_of_iff (T.cfg.registered .recv < 2 ^ 32 ∧
      (∀ t ∈ act.runner, (T.cfg.thr t).pc.registeredOn = some .recv → T.since t < 2 ^ 32) ∧
      ∀ t, act.ends .recv t = true → (T.cfg.thr t).pc.receives = false)
    ⟨fun ⟨few, bumps, context⟩ => ⟨few, bumps, context⟩,
      fun ⟨few, bumps, context⟩ => ⟨few, bumps, context⟩⟩

/-- An attentive act is fair to the receivers. -/
theorem Attentive.fair (attentive : Attentive T act) (uncancelled : T.cfg.Uncancelled)
    (attended : Attended S .recv T) : Fair S .recv T act where
  few := attentive.few
  bumps := attentive.bumps
  wakes u _ asleep := by
    have receives : (T.cfg.thr u).pc.receives = true := by
      cases here : (T.cfg.thr u).pc with
      | sendAsleep noSlots =>
        rw [here] at asleep
        cases noSlots <;> cases asleep
      | recvAsleep => rfl
      | _ =>
        rw [here] at asleep
        cases asleep
    simp [Thread.live, uncancelled u receives]
  stays u owes := by
    rw [Bool.eq_false_iff]
    intro ends
    have outside := attentive.context u ends
    rw [show (T.cfg.thr u).pc.receives = true from (attended.owes u owes).1] at outside
    cases outside
  alive sends := absurd rfl sends
  scans := nofun
  slot := nofun
  full := nofun
  ids sends := absurd rfl sends

/-- The counters of the queue count the pending requests. -/
theorem Base.queued (base : Base S c) : queued c.mem = c.pending.length := by
  obtain ⟨q, queue, ids⟩ := base.queue
  rw [← ids, List.length_map]
  exact queue.count

/-- In every run in which fewer than 2^32 receivers are registered at a time and no
receiver's context is cancelled: while a receiver sleeps, there are at most as many
queued requests as senders between the increment of `req_tail` and the end of
`wakeConsumers` and receivers that were woken and have not done their next
`tryRecv`. -/
theorem requests_attended (queueOk : S.shm.QueueOk) (start : Start S c)
    (none : ∀ w, c.waiting w = 0) (ran : (Tally.start c).steps S acts = some T)
    (always : Runs.Always (Tally.step S) Attentive (Tally.start c) acts)
    (asleep : T.cfg.sleepers S .hdrRecvFutex ≠ []) :
    queued T.cfg.mem ≤ T.cfg.dues .recv + T.owing .recv := by
  have kept : Tally.Tallied S T ∧ Attended S .recv T ∧ T.cfg.Uncancelled := by
    refine Runs.invariant (fun T => Tally.Tallied S T ∧ Attended S .recv T ∧ T.cfg.Uncancelled)
      ?_ ran
      always ⟨.start start none, start.attended .recv, fun u receives => ?_⟩
    · rintro T act T' ⟨tallied, attended, uncancelled⟩ attentive stepped
      have moved := (Tally.step_eq stepped).1
      exact ⟨tallied.step queueOk stepped, attended.step queueOk (absurd rfl) tallied
          (attentive.fair uncancelled attended) stepped,
        uncancelled.step queueOk tallied.base tallied.flat moved attentive.context⟩
    · rw [show ((Tally.start c).cfg.thr u).pc = .idle from start.idle u] at receives
      cases receives
  obtain ⟨tallied, attended, -⟩ := kept
  obtain ⟨u, member⟩ := List.exists_mem_of_ne_nil _ asleep
  obtain ⟨sleeps, live⟩ := of_decide_eq_true (List.mem_filter.mp member).2
  rw [tallied.base.queued]
  exact attended.watched u (sleepsOn_of_asleep (w := .recv) sleeps) live

/-- A receiver sleeps and a sender has enqueued a request. -/
def sleepingReceiver : List (Act 2) := [[.serve 1], go 1 6, [.query 0 [1]], go 0 6].flatten

theorem requests_attended_sleepingReceiver :
    ∃ T, (Tally.start (freshCfg 2)).steps (tinySetup 2) sleepingReceiver = some T ∧
      queued T.cfg.mem ≤ T.cfg.dues .recv + T.owing .recv := by
  have ends : ((Tally.start (freshCfg 2)).steps (tinySetup 2) sleepingReceiver).any (fun T =>
      decide (T.cfg.sleepers (tinySetup 2) .hdrRecvFutex ≠ [])) = true := by decide +kernel
  obtain ⟨T, ran, last⟩ := (Option.any_eq_true _ _).mp ends
  have always : Runs.Always (Tally.step (tinySetup 2)) Attentive (Tally.start (freshCfg 2))
      sleepingReceiver := by decide +kernel
  exact ⟨T, ran, requests_attended (by decide) (freshCfg_start 2) (fun w => by cases w <;> rfl) ran
    always (of_decide_eq_true last)⟩

end ReqRep
