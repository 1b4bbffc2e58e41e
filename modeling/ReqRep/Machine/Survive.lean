import ReqRep.Machine.Atomic

/-!
# Deaths inside the critical sections

Processes die at any access of any section, while everything else goes on.
Outside of two windows, between the accounting of the arena and the counters of
the queue, what the users of the queue saw is what a bounded FIFO queue does.
-/

namespace ReqRep.Fine

open BoundedQueue (Event Step Steps pushed taken Agrees)

variable {n : Nat} {S : Setup n} {f f' : Cfg n} {c c' : ReqRep.Cfg n} {t : Fin n}
  {act : Act n} {p : Body Outcome} {s : Shm} {m : Mem} {q : List Request} {th : Thread}

/-! ## Safe deaths -/

/-- The stores `rest` that a goroutine does not make any more leave no window
open. -/
def SafeRest (th : Thread) (m : Mem) (rest : List Write) : Prop :=
  match th.pc with
  | .send _ _ => SafeSendCut m rest
  | _ => SafeRecvCut rest

instance (th : Thread) (m : Mem) (rest : List Write) : Decidable (SafeRest th m rest) := by
  unfold SafeRest
  split <;> infer_instance

/-- Goroutine `t` is not in one of the two windows: of a sender between its
stores of `arena_wpos` and `arena_used` while requests are queued, or of a
receiver between its store of `arena_used` and its increment of `req_head`. -/
def Cfg.SafeCut (f : Cfg n) (t : Fin n) : Prop :=
  match trace (f.job t) f.cfg.mem with
  | some (_, rest) => SafeRest (f.cfg.thr t) f.cfg.mem rest
  | none => True

instance (f : Cfg n) (t : Fin n) : Decidable (f.SafeCut t) := by
  unfold Cfg.SafeCut
  split <;> infer_instance

/-- No goroutine of a process that dies is in one of the two windows. -/
def SafeAct (S : Setup n) (f : Cfg n) : Act n → Prop
  | .die pid => ∀ t, f.Inside S t → (S.pid t).val = pid → f.SafeCut t
  | _ => True

instance (f : Cfg n) : DecidablePred (SafeAct S f)
  | .die pid =>
    inferInstanceAs (Decidable (∀ t, f.Inside S t → (S.pid t).val = pid → f.SafeCut t))
  | .run _ _ _ | .query _ _ | .serve _ | .cancelCtx _ | .deadline _ | .wakeup _ | .recvTimeout _
  | .lockWakeup _ | .lockTimeout _ => isTrue trivial

/-! ## Stores elsewhere -/

theorem foreign_of_elsewhere {w : Write} (other : w.ofQueue = false) : w.Foreign := by
  cases w with
  | w32 l v =>
    refine ⟨?_, ?_, fun idx field => ?_⟩
    · rintro rfl
      cases other
    · rintro rfl
      cases other
    · cases l <;> first
        | exact field.elim
        | cases other
  | w64 l v =>
    constructor
    · rintro rfl
      cases other
    · rintro rfl
      cases other
  | w8 l v =>
    rintro k rfl
    cases other

theorem represents_elsewhere (queue : Represents s m q) {ws : List Write}
    (others : ∀ w ∈ ws, w.ofQueue = false) : Represents s (m.writeAll ws) q := by
  induction ws generalizing m with
  | nil => exact queue
  | cons w ws ih =>
    obtain ⟨here, later⟩ := List.forall_mem_cons.mp others
    exact ih (queue.foreign (foreign_of_elsewhere here)) later

/-! ## What a section does to the queue -/

/-- The queue after an event, as its users and as the ids see it. -/
structure Advances (s : Shm) (q : List Request) (e : Event Delivery) (m' : Mem)
    (q' : List Request) : Prop where
  queue : Represents s m' q'
  step : Step s.reqCap.toNat (q.map Request.delivery) e (q'.map Request.delivery)
  ids : q'.map Request.id = queuedAfter (q.map Request.id) e

/-- A section comes to an end, and a death anywhere in it outside of the windows
leaves the queue as if it had not begun or had ended. -/
structure Served (s : Shm) (th : Thread) (p : Body Outcome) (m : Mem) (q : List Request)
    (outcome : Outcome) (ws : List Write) : Prop where
  traced : trace p m = some (outcome, ws)
  ends : ∃ q', Advances s q (seen th outcome) (m.writeAll ws) q'
  cut : ∀ k, SafeRest th (m.writeAll (ws.take k)) (ws.drop k) →
    ∃ q', Advances s q (died th m (m.writeAll (ws.take k))) (m.writeAll (ws.take k)) q'

theorem Advances.stay (queue : Represents s m q) : Advances s q .skip m q :=
  ⟨queue, .skip, rfl⟩

theorem Advances.push {r : Request} (queue : Represents s m (q ++ [r])) :
    Advances s q (.push r.delivery) m (q ++ [r]) := by
  have bound := queue.bounded
  rw [List.length_append, List.length_singleton] at bound
  refine ⟨queue, ?_, ?_⟩
  · rw [List.map_append]
    exact .push (by rwa [List.length_map])
  · rw [List.map_append]
    rfl

/-- `sendLocked` at its first access, and what a death in it leaves. -/
theorem served_send (ok : s.QueueOk) (queue : Represents s m q) {a : Attempt} {id : UInt64}
    (here : th.pc = .send a id) (short : Short th.req) (slot : idSlot id < s.respSlots) :
    ∃ outcome ws, Served s th (.sent <$> ByAccess.sendLocked s th.req (idSlot id) (idGen id)) m q
      outcome ws := by
  have same : (Request.mk th.req (idSlot id) (idGen id)).delivery = (th.req, id) := by
    simp [Request.delivery, Request.id, packId_idGen_idSlot]
  obtain ⟨sent, ws, run, outcome⟩ := sendLocked_run (r := ⟨th.req, idSlot id, idGen id⟩) short slot
    ⟨m, []⟩ queue.wpos_bound
  refine ⟨.sent sent, ws, ?_, ?_, fun k safe => ?_⟩
  · rw [trace, Stepwise.Program.exec_map, ByAccess.exec_sendLocked, Exec.map_apply, run]
    rfl
  · rcases send_represents ok queue short outcome with ⟨rfl, after⟩ | ⟨rfl, -, after⟩
    · exact ⟨q, after, .reject, rfl⟩
    · have event : seen th (.sent true) = .push (th.req, id) := by
        simp only [seen, here]
      rw [event, ← same]
      exact ⟨_, .push after⟩
  · rw [SafeRest, here] at safe
    have leaves := (send_along ok queue short outcome).cut k safe
    unfold SendLeaves at leaves
    simp only [died, here]
    split at leaves
    · next kept =>
      rw [if_pos kept]
      exact ⟨q, .stay leaves⟩
    · next moved =>
      rw [if_neg moved, ← same]
      exact ⟨_, .push leaves⟩

/-- `recvLocked` at its first access, and what a death in it leaves. -/
theorem served_recv (queue : Represents s m q) {a : RecvAttempt} (here : th.pc = .recvTry a) :
    ∃ outcome ws, Served s th (.received <$> ByAccess.recvLocked s) m q outcome ws := by
  have event : ∀ m', died th m m' =
      if m'.u64 .hdrReqHead = m.u64 .hdrReqHead then .skip else .drop := by
    intro m'
    simp only [died, here]
  cases q with
  | nil =>
    have run := recv_run_nil (w := ⟨m, []⟩) queue
    have after : Represents s (m.write (.w32 .hdrStatRecvEmpty (m.u32 .hdrStatRecvEmpty + 1))) [] :=
      queue.foreign ⟨by decide, by decide, fun _ => id⟩
    have along : Along (fun m' _ => Represents s m' [] ∧ m'.u64 = m.u64) m
        [.w32 .hdrStatRecvEmpty (m.u32 .hdrStatRecvEmpty + 1)] :=
      ⟨⟨queue, rfl⟩, after, rfl⟩
    refine ⟨.received none, [.w32 .hdrStatRecvEmpty (m.u32 .hdrStatRecvEmpty + 1)], ?_, ?_,
      fun k _ => ?_⟩
    · rw [trace, Stepwise.Program.exec_map, ByAccess.exec_recvLocked, Exec.map_apply, run]
      rfl
    · exact ⟨[], after, .empty, rfl⟩
    · obtain ⟨kept, same⟩ := along.cut k
      rw [event, if_pos (congrFun same _)]
      exact ⟨[], .stay kept⟩
  | cons r q =>
    have run := recv_run_cons (w := ⟨m, []⟩) queue
    refine ⟨.received (some r.delivery), recvWrites s m, ?_, ?_, fun k safe => ?_⟩
    · rw [trace, Stepwise.Program.exec_map, ByAccess.exec_recvLocked, Exec.map_apply, run]
      rfl
    · have leaves := (recv_along queue).final trivial
      unfold RecvLeaves at leaves
      rw [if_neg (by simp [recvWrites, Mem.writeAll_append])] at leaves
      exact ⟨q, leaves, .pop, rfl⟩
    · rw [SafeRest, here] at safe
      have leaves := (recv_along queue).cut k safe
      unfold RecvLeaves at leaves
      rw [event]
      split at leaves
      · next kept =>
        rw [if_pos kept]
        exact ⟨_, .stay leaves⟩
      · next moved =>
        rw [if_neg moved]
        exact ⟨q, leaves, .drop, rfl⟩

/-! ## The invariant -/

/-- The matching configuration has the queue `q`, and the events so far lead
there. -/
structure Serving (S : Setup n) (f : Cfg n) (c : ReqRep.Cfg n) (q : List Request) : Prop where
  matched : Matches S f c
  queue : Represents S.shm c.mem q
  ids : q.map Request.id = c.pending
  short : ∀ t, (c.thr t).pc ≠ .idle → Short (c.thr t).req
  bounded : ∀ t, (c.thr t).pc.Bounded S.shm
  steps : Steps S.shm.reqCap.toNat [] f.events (q.map Request.delivery)

namespace Serving

theorem base (serving : Serving S f c q) : Base S.base c :=
  ⟨⟨q, serving.queue, serving.ids⟩, serving.short, serving.bounded⟩

/-- Any section at its first access. -/
theorem served (ok : S.shm.QueueOk) (serving : Serving S f c q)
    (arrived : body S.shm (c.thr t) = some p) :
    ∃ outcome ws, Served S.shm (c.thr t) p c.mem q outcome ws := by
  unfold body at arrived
  split at arrived
  · next a id here =>
    cases arrived
    have busy : (c.thr t).pc ≠ .idle := by
      rw [here]
      rintro ⟨⟩
    have slot : idSlot id < S.shm.respSlots := serving.base.bounded_at here
    exact served_send ok serving.queue here (serving.short t busy) slot
  · next a here =>
    cases arrived
    exact served_recv serving.queue here
  · cases arrived

/-- Only one goroutine has the mutex. -/
theorem cuts_eq (serving : Serving S f c q) {pid : UInt32} (inside : f.Inside S t)
    (own : (S.pid t).val = pid) : f.cuts S pid = [f.cut t] := by
  have only : ((List.finRange n).filter fun t' => (S.pid t').val = pid ∧ f.Inside S t') = [t] := by
    have same : ((List.finRange n).filter fun t' => (S.pid t').val = pid ∧ f.Inside S t') =
        (List.finRange n).filter (· == t) := by
      refine List.filter_congr fun t' _ => ?_
      by_cases here : t' = t
      · subst here
        simp [own, inside]
      · have out : ¬ f.Inside S t' := fun inside' => here (serving.matched.alone inside' inside)
        simp [here, out]
    rw [same, List.filter_beq, List.count_eq_one_of_mem (List.nodup_finRange n)
      (List.mem_finRange t)]
    rfl
  rw [Cfg.cuts, only]
  rfl

/-- A death inside a section. -/
theorem die_inside (ok : S.shm.QueueOk) (serving : Serving S f c q) {pid : UInt32}
    (inside : f.Inside S t) (own : (S.pid t).val = pid) (safe : f.SafeCut t)
    (stepped : f.step S (.die pid) = some f') : ∃ c' q', Serving S f' c' q' := by
  obtain ⟨p, done, half⟩ := serving.matched.inside t inside
  have threads : c.thr = f.cfg.thr := by
    rw [serving.matched.rest]
    rfl
  have arrived : body S.shm (c.thr t) = some p := by
    rw [threads]
    exact half.waits
  obtain ⟨outcome, ws, served⟩ := serving.served ok arrived
  -- the stores made, and those that are left
  obtain ⟨⟨outcome', rest⟩, left, same⟩ :=
    Option.map_eq_some_iff.mp (half.trace.symm.trans served.traced)
  obtain ⟨rfl, rfl⟩ := Prod.mk.inj same
  have mem : c.mem.writeAll ((done ++ rest).take done.length) = f.cfg.mem := by
    rw [List.take_left, half.mem]
  have safe : SafeRest (c.thr t) (c.mem.writeAll ((done ++ rest).take done.length))
      ((done ++ rest).drop done.length) := by
    rw [mem, List.drop_left, threads]
    rw [Cfg.SafeCut, left] at safe
    exact safe
  obtain ⟨q', advances⟩ := served.cut done.length safe
  have event : died (c.thr t) c.mem f.cfg.mem = f.cut t := by
    rw [Cfg.cut, died, died, half.tail, half.head, threads]
  rw [mem, event] at advances
  cases stepped
  rw [serving.cuts_eq inside own]
  refine ⟨_, q', serving.matched.die_inside inside own, advances.queue, ?_, ?_, ?_,
    serving.steps.snoc advances.step⟩
  · show q'.map Request.id = queuedAfter f.cfg.pending (f.cut t)
    rw [advances.ids, serving.ids, serving.matched.rest]
    rfl
  · exact threads ▸ serving.short
  · exact threads ▸ serving.bounded

/-- What the machine with atomic sections does about a step. -/
theorem follow (ok : S.shm.QueueOk) (serving : Serving S f c q)
    (followed : Followed S f act c f' c') : ∃ q', Serving S f' c' q' := by
  cases followed with
  | waits same after =>
    refine ⟨q, after, serving.queue, serving.ids, serving.short, serving.bounded, ?_⟩
    rw [same]
    exact serving.steps
  | moves coarse c' ws moved mem others pending guarded same after =>
    obtain ⟨base, -⟩ := step_simulated ok serving.base moved
    refine ⟨q, after, ?_, ?_, base.short, base.bounded, ?_⟩
    · rw [mem]
      exact represents_elsewhere serving.queue others
    · rw [pending]
      exact serving.ids
    · rw [same]
      exact serving.steps
  | returns t p outcome ws arrived traced moved events after =>
    obtain ⟨base, -⟩ := step_simulated ok serving.base moved
    obtain ⟨outcome', ws', served⟩ := serving.served ok arrived
    obtain ⟨rfl, rfl⟩ := Prod.mk.inj (Option.some.inj (traced.symm.trans served.traced))
    obtain ⟨q', advances⟩ := served.ends
    refine ⟨q', after, ?_, ?_, base.short, base.bounded, ?_⟩
    · rw [finish_mem]
      exact advances.queue
    · rw [finish_pending arrived served.traced, advances.ids, serving.ids]
    · rw [events]
      exact serving.steps.snoc advances.step

/-- A step that is safe. -/
theorem step (ok : S.shm.QueueOk) (serving : Serving S f c q) (stepped : f.step S act = some f')
    (safe : SafeAct S f act) : ∃ c' q', Serving S f' c' q' := by
  by_cases dies : ∃ pid, act = .die pid
  · obtain ⟨pid, rfl⟩ := dies
    by_cases broken : ∃ t, f.Inside S t ∧ (S.pid t).val = pid
    · obtain ⟨t, inside, own⟩ := broken
      exact serving.die_inside ok inside own (safe t inside own) stepped
    · have unbroken : ∀ t, f.Inside S t → (S.pid t).val ≠ pid :=
        fun t inside own => broken ⟨t, inside, own⟩
      cases stepped
      rw [cuts_eq_nil unbroken]
      refine ⟨_, q, serving.matched.die unbroken, serving.queue, serving.ids, serving.short,
        serving.bounded, ?_⟩
      rw [List.append_nil]
      exact serving.steps
  · obtain ⟨c', followed⟩ := serving.matched.step stepped fun pid same => dies ⟨pid, same⟩
    exact ⟨c', serving.follow ok followed⟩

end Serving

/-! ## Any run -/

theorem Ready.serving (ready : Ready f) (start : Start S.base f.cfg) (fresh : f.events = []) :
    Serving S f f.cfg [] where
  matched := ready.matches
  queue := start.queue
  ids := start.pending.symm
  short := start.base.short
  bounded := start.base.bounded
  steps := by
    rw [fresh]
    exact .nil

/-- The request queue is a bounded FIFO whatever the interleaving, and wherever in
the sections processes die, outside of the two windows. The requests whose
`req_tail` increment was done leave the queue in order and unchanged, each once:
returned by a `recvLocked`, or lost with a receiver that died after its `req_head`
increment. The others wait; they are at most `reqCap`, and when nobody has the
mutex the next `recvLocked` returns the oldest of them. No section panics. -/
theorem interleaved_deaths_keep_requests (ok : S.shm.QueueOk) (ready : Ready f)
    (start : Start S.base f.cfg) (fresh : f.events = []) {acts : List (Act n)}
    (ran : f.steps S acts = some f') (safe : Runs.Always (Cfg.step S) (SafeAct S) f acts) :
    ∃ gone waiting, pushed f'.events = gone ++ waiting ∧ Agrees gone (taken f'.events) ∧
      waiting.length ≤ S.shm.reqCap.toNat ∧ f'.cfg.pending = waiting.map Prod.snd ∧
      ((∀ t, ¬ f'.Inside S t) →
        ∃ w, (runCall S.shm .recv).run f'.cfg.mem = some (received waiting, w)) ∧
      ∀ t, f'.Inside S t → f'.job t ≠ .abort := by
  obtain ⟨c, q, serving⟩ := Runs.invariant (fun f => ∃ c q, Serving S f c q)
    (fun f act f' inv safe stepped => inv.elim fun _ inv => inv.elim fun _ serving =>
      serving.step ok stepped safe)
    ran safe ⟨_, _, ready.serving start fresh⟩
  obtain ⟨gone, split, agrees⟩ := serving.steps.conserves
  refine ⟨gone, q.map Request.delivery, split, agrees, ?_, ?_, fun out => ?_, fun t inside => ?_⟩
  · rw [List.length_map]
    exact serving.queue.bounded
  · have same : f'.cfg.pending = c.pending := by
      rw [serving.matched.rest]
      rfl
    rw [same, ← serving.ids, List.map_map]
    rfl
  · obtain ⟨w, next, -⟩ := recv_call serving.queue
    rw [serving.matched.free out] at next
    exact ⟨w, next⟩
  · intro aborts
    obtain ⟨p, done, half⟩ := serving.matched.inside t inside
    have arrived : body S.shm (c.thr t) = some p := by
      rw [serving.matched.rest]
      exact half.waits
    obtain ⟨outcome, ws, served⟩ := serving.served ok arrived
    have traced := half.trace.symm.trans served.traced
    rw [aborts] at traced
    cases traced

theorem fresh_start : Start tinySetup.base (fresh 2).cfg := by
  obtain ⟨queue, pending, idle, free, holder, bumps, alive, log⟩ := freshCfg_start 2
  exact ⟨queue, pending, idle, free, holder, bumps, alive, log⟩

/-- The server spins, sleeps on the mutex, and finds its holder dead. -/
def findsDead : List (Act 2) :=
  [go 1 35, [.lockTimeout 1], go 1 2, [.run 1 {} { alive := false }]].flatten

/-- The client dies right after its increment of `req_tail`. The server recovers the
mutex after its second time-out and receives the request. -/
def deadSender : List (Act 2) :=
  [[.query 0 [1]], go 0 20, [.die 1, .serve 1], go 1 1, findsDead, findsDead, go 1 20].flatten

theorem interleaved_deaths_keep_requests_deadSender :
    ∃ f' gone waiting, (fresh 2).steps tinySetup deadSender = some f' ∧
      f'.events = [.push ([1], packId 1 0), .pop ([1], packId 1 0)] ∧
      pushed f'.events = gone ++ waiting ∧ Agrees gone (taken f'.events) := by
  have ends : ((fresh 2).steps tinySetup deadSender).any (fun f =>
      decide (f.events = [.push ([1], packId 1 0), .pop ([1], packId 1 0)])) = true := by
    decide +kernel
  obtain ⟨f', ran, last⟩ := (Option.any_eq_true _ _).mp ends
  have safe : Runs.Always (Cfg.step tinySetup) (SafeAct tinySetup) (fresh 2) deadSender := by
    decide +kernel
  obtain ⟨gone, waiting, split, agrees, -⟩ :=
    interleaved_deaths_keep_requests (by decide) (fresh_ready 2) fresh_start rfl ran safe
  exact ⟨f', gone, waiting, ran, of_decide_eq_true last, split, agrees⟩

end ReqRep.Fine
