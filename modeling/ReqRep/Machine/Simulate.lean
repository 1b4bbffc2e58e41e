import ReqRep.Machine.Refine

/-!
# Each step is a move

The case analysis over the counters of the machine, once: what it keeps, and
which move it is. Everything later is about moves.
-/

namespace ReqRep

variable {n : Nat} {S : Setup n} {c c' : Cfg n} {t : Fin n} {ans : Answer n}

/-- The stores of the queue change nothing that the protocol sees. -/
theorem view_queue {ws : List Write} (queue : ∀ w ∈ ws, w.OfQueue) (pending : List UInt64) :
    ({ c with mem := c.mem.writeAll ws, pending := pending } : Cfg n).view =
      { c.view with pending := pending } := by
  have words : ∀ l, SlotWord l → (c.mem.writeAll ws).u32 l = c.mem.u32 l := fun l word =>
    Mem.writeAll_u32_of_not_mem (fun v member => by
      have ofQueue := queue _ member
      cases l <;> first
        | exact word.elim
        | simp [Write.OfQueue, SlotField] at ofQueue) c.mem
  have bytes : ∀ i k, (c.mem.writeAll ws).u8 (.respSlotData i k) = c.mem.u8 (.respSlotData i k) :=
    fun i k => Mem.writeAll_u8_of_not_mem (fun v member => by
      have ofQueue := queue _ member
      simp [Write.OfQueue] at ofQueue) c.mem
  unfold Cfg.view Cfg.state Cfg.gen Cfg.owner
  congr 1
  all_goals first
    | exact words .hdrRespHint trivial
    | exact funext fun i => words _ trivial
    | exact funext fun i => funext fun k => bytes i k

/-- The outcome of the `sendLocked` step. -/
theorem send_step (ok : S.shm.QueueOk) (base : Base S c) {a : Attempt} {id : UInt64}
    (here : (c.thr t).pc = .send a id) :
    ∃ sent ws, (sendLocked S.shm (c.thr t).req (idSlot id) (idGen id)).run c.mem =
        some (sent, { mem := c.mem.writeAll ws, writes := ws }) ∧
      (∀ w ∈ ws, w.OfQueue) ∧
      ∃ q, Represents S.shm (c.mem.writeAll ws) q ∧
        q.map Request.id = if sent then c.pending ++ [id] else c.pending := by
  obtain ⟨q, queue, ids⟩ := base.queue
  have short := base.short t (by rw [here]; nofun)
  obtain ⟨sent, ws, run, outcome⟩ := sendLocked_run (r := ⟨(c.thr t).req, idSlot id, idGen id⟩)
    short (base.bounded_at here) ⟨c.mem, []⟩ queue.wpos_bound
  refine ⟨sent, ws, by simpa [Exec.run, World.extend] using run, sent_ofQueue outcome, ?_⟩
  rcases send_represents ok queue short outcome with ⟨rfl, after⟩ | ⟨rfl, -, after⟩
  · exact ⟨q, after, ids⟩
  · refine ⟨_, after, ?_⟩
    rw [List.map_append, ids]
    simp [Request.id, packId_idGen_idSlot]

/-- The outcome of the `recvLocked` step. -/
theorem recv_step (base : Base S c) :
    ∃ got ws, (recvLocked S.shm).run c.mem =
        some (got, { mem := c.mem.writeAll ws, writes := ws }) ∧
      (∀ w ∈ ws, w.OfQueue) ∧
      (∃ q, Represents S.shm (c.mem.writeAll ws) q ∧ q.map Request.id = c.pending.tail) ∧
      (got = none → c.pending = []) ∧
      ∀ data id, got = some (data, id) → c.pending = id :: c.pending.tail := by
  obtain ⟨q, queue, ids⟩ := base.queue
  cases q with
  | nil =>
    have run := recv_run_nil (w := ⟨c.mem, []⟩) queue
    refine ⟨none, [.w32 .hdrStatRecvEmpty (c.mem.u32 .hdrStatRecvEmpty + 1)],
      by simpa [Exec.run, World.extend] using run, ?_, ⟨[], ?_, ?_⟩,
      fun _ => ids.symm, (by rintro _ _ ⟨⟩)⟩
    · intro w member
      obtain rfl := List.mem_singleton.mp member
      exact .inr (.inr (.inl rfl))
    · exact queue.foreign (w := .w32 .hdrStatRecvEmpty _) ⟨by decide, by decide, fun _ h => h⟩
    · rw [← ids]
      rfl
  | cons r q =>
    have run := recv_run_cons (w := ⟨c.mem, []⟩) queue
    refine ⟨some r.delivery, _, by simpa [Exec.run, World.extend] using run, recv_ofQueue _ _,
      ⟨q, ?_, ?_⟩, (by rintro ⟨⟩), ?_⟩
    · have leaves := (recv_along queue).final trivial
      unfold RecvLeaves at leaves
      rwa [if_neg ?_] at leaves
      simp [recvWrites, Mem.writeAll_append]
    · rw [← ids]
      rfl
    · intro data id got
      obtain ⟨-, rfl⟩ := Prod.mk.inj (Option.some.inj got)
      rw [← ids]
      rfl

theorem waiters_queue {ws : List Write} (queue : ∀ w ∈ ws, w.OfQueue) (pending : List UInt64) :
    ({ c with mem := c.mem.writeAll ws, pending := pending } : Cfg n).waiters = c.waiters :=
  funext fun i => Mem.writeAll_u32_of_not_mem (fun v member => by
    have ofQueue := queue _ member
    simp [Write.OfQueue, SlotField] at ofQueue) c.mem

/-- The step from `c` to `c'` is a move of the protocol, or one that it does not
see; and what it does to sleepers and wakers. -/
structure Simulated (S : Setup n) (c : Cfg n) (t : Fin n) (ans : Answer n) (c' : Cfg n) :
    Prop where
  base : Base S c'
  move : (c.labelAt S ans (c.thr t).pc = none ∧ c'.view = c.view) ∨
    Move S c.view t (c.labelAt S ans (c.thr t).pc) c'.view
  watches : Watches S c t c'

namespace Simulated

variable {pc pc' : Pc} {l : Loc32}

/-- A step that the protocol does not see. -/
theorem quiet {c₀ : Cfg n} (base : Base S c₀) (view : c₀.view = c.view) (thr : c₀.thr = c.thr)
    (waiters : c₀.waiters = c.waiters) (here : (c.thr t).pc = pc) (busy : pc ≠ .idle)
    (unlabelled : c.labelAt S ans pc = none) (bounded : pc'.Bounded S.shm)
    (same : pc'.role = pc.role) (watch : pc'.watch = pc.watch) :
    Simulated S c t ans (c₀.goto t pc') := by
  subst here
  exact ⟨base.goto (by rwa [thr]) bounded, .inl ⟨unlabelled, view_stutter view same⟩,
    .quiet rfl thr waiters watch⟩

theorem jump (base : Base S c) (here : (c.thr t).pc = pc) (busy : pc ≠ .idle)
    (unlabelled : c.labelAt S ans pc = none) (bounded : pc'.Bounded S.shm)
    (same : pc'.role = pc.role) (watch : pc'.watch = pc.watch) :
    Simulated S c t ans (c.goto t pc') :=
  .quiet base rfl rfl rfl here busy unlabelled bounded same watch

theorem store (base : Base S c) {v : UInt32} (foreign : (Write.w32 l v).Foreign)
    (other : ¬ SlotWord l) (unwatched : ∀ i, l ≠ .respSlotWaiters i) (here : (c.thr t).pc = pc)
    (busy : pc ≠ .idle) (unlabelled : c.labelAt S ans pc = none) (bounded : pc'.Bounded S.shm)
    (same : pc'.role = pc.role) (watch : pc'.watch = pc.watch) :
    Simulated S c t ans ((c.store l v).goto t pc') :=
  .quiet (base.store v foreign) (view_store_other c v other) rfl (waiters_store c v unwatched)
    here busy unlabelled bounded same watch

/-- A `futexWake`, whatever it is on. -/
theorem wake (base : Base S c) {k : Nat} {woken : List (Fin n)} {c₀ : Cfg n}
    (woke : c.futexWake S l k woken = some c₀) (here : (c.thr t).pc = pc) (busy : pc ≠ .idle)
    (awake : pc.asleepOn = none) (unlabelled : c.labelAt S ans pc = none)
    (bounded : pc'.Bounded S.shm) (same : pc'.role = pc.role)
    (watches : Watches S c t (c₀.goto t pc')) : Simulated S c t ans (c₀.goto t pc') := by
  subst here
  obtain ⟨base₀, thread⟩ := base.futexWake (t := t) woke
  exact ⟨base₀.goto (by rwa [thread awake]) bounded,
    .inl ⟨unlabelled, view_stutter (view_futexWake woke) same⟩, watches⟩

/-- A step of its own that the protocol does not see. -/
theorem unseen {c₀ : Cfg n} (base : Base S c₀) (view : c₀.view = c.view) (thr : c₀.thr = c.thr)
    (here : (c.thr t).pc = pc) (busy : pc ≠ .idle) (unlabelled : c.labelAt S ans pc = none)
    (bounded : pc'.Bounded S.shm) (same : pc'.role = pc.role)
    (watches : Watches S c t (c₀.goto t pc')) : Simulated S c t ans (c₀.goto t pc') := by
  subst here
  exact ⟨base.goto (by rwa [thr]) bounded, .inl ⟨unlabelled, view_stutter view same⟩, watches⟩

theorem register (base : Base S c) {id : UInt64} (here : (c.thr t).pc = .waitAdd id) :
    Simulated S c t ans ((c.store (.respSlotWaiters (idSlot id))
      (c.mem.u32 (.respSlotWaiters (idSlot id)) + 1)).goto t (.waitState id)) := by
  refine .unseen (base.store _ (by simp [Write.Foreign, SlotField]))
    (view_store_other c _ nofun) rfl here nofun rfl trivial rfl ?_
  refine .register (idSlot id) (by rw [Cfg.watch, here]; rfl) (watch_goto _ t _)
    (funext fun i => ?_)
  simp [Cfg.waiters, Cfg.store, Cfg.goto, Function.update_apply]

theorem leave (base : Base S c) {id : UInt64} {result : Option (List UInt8)}
    (here : (c.thr t).pc = .waitLeave id result) :
    Simulated S c t ans ((c.store (.respSlotWaiters (idSlot id))
      (c.mem.u32 (.respSlotWaiters (idSlot id)) - 1)).goto t (.waitReturn id false result)) := by
  refine .unseen (base.store _ (by simp [Write.Foreign, SlotField]))
    (view_store_other c _ nofun) rfl here nofun rfl (bounded_waitReturn ..) ?_ ?_
  · cases result <;> rfl
  · refine .leave (idSlot id) (by rw [Cfg.watch, here]; rfl) ?_ (funext fun i => ?_)
    · rw [watch_goto, watch_waitReturn]
      rfl
    · simp [Cfg.waiters, Cfg.store, Cfg.goto, Function.update_apply]

/-- A step that is a move. -/
theorem act {c₀ : Cfg n} (base : Base S c₀) (here : (c.thr t).pc = pc) (thr : c₀.thr = c.thr)
    (busy : pc ≠ .idle) (bounded : pc'.Bounded S.shm)
    (move : Move S c.view t (c.labelAt S ans pc) (c₀.view.become t pc'.role))
    (watches : Watches S c t (c₀.goto t pc')) : Simulated S c t ans (c₀.goto t pc') := by
  subst here
  exact ⟨base.goto (by rwa [thr]) bounded, .inr (by rwa [view_goto]), watches⟩

end Simulated

private theorem waiters_eq_zero {i : UInt32} (none : ¬ c.mem.u32 (.respSlotWaiters i) > 0) :
    c.waiters i = 0 := by
  have zero := UInt32.not_lt.mp none
  rw [UInt32.le_iff_toNat_le] at zero
  exact UInt32.toNat_inj.mp (Nat.le_zero.mp zero)

private theorem mod_lt_of_lt {i k m : UInt32} (bound : i < m) : k % m < m := by
  refine UInt32.mod_lt _ ?_
  rw [UInt32.lt_iff_toNat_lt] at bound ⊢
  exact Nat.lt_of_le_of_lt (Nat.zero_le _) bound

/-- One case for each counter. -/
theorem run_simulated (ok : S.shm.QueueOk) (base : Base S c)
    (ran : c.run S t ans = some c') : Simulated S c t ans c' := by
  have role : ∀ {pc}, (c.thr t).pc = pc → c.view.role t = pc.role := fun here => here ▸ rfl
  cases here : (c.thr t).pc with
  | idle => simp [Cfg.run, here] at ran
  | wakeBump w next =>
    obtain rfl : _ = c' := by simpa only [Cfg.run, here, Option.some.injEq] using ran
    have bounded := base.bounded_at here
    exact .store base (by cases w <;> simp [WakeWord.futex, Write.Foreign, SlotField])
      (by cases w <;> exact id) (by cases w <;> rintro _ ⟨⟩) here (by rintro ⟨⟩) rfl bounded rfl rfl
  | wakeLoad w next =>
    obtain rfl : _ = c' := by simpa only [Cfg.run, here, Option.some.injEq] using ran
    have bounded := base.bounded_at here
    split
    · exact .jump base here (by rintro ⟨⟩) rfl bounded rfl rfl
    · exact .jump base here (by rintro ⟨⟩) rfl bounded rfl rfl
  | wakeCall w next =>
    simp only [Cfg.run, here] at ran
    have bounded := base.bounded_at here
    obtain ⟨c₀, woke, rfl⟩ := Option.map_eq_some_iff.mp ran
    obtain ⟨watch, waiters⟩ := watch_futexWake_other (by cases w <;> rintro _ ⟨⟩) woke
    refine .wake base woke here (by rintro ⟨⟩) rfl rfl bounded rfl (.same ?_ waiters)
    rw [watch_goto, watch]
    exact watch_update_self here rfl
  | acqHint a =>
    obtain rfl : _ = c' := by simpa only [Cfg.run, here, Option.some.injEq] using ran
    exact .jump base here (by rintro ⟨⟩) rfl (bounded_scan ..) (role_scan ..) (watch_scan ..)
  | acqCas a hint i =>
    have bound : (hint + i) % S.shm.respSlots < S.shm.respSlots :=
      mod_lt_of_lt (base.bounded_at here)
    simp only [Cfg.run, here] at ran
    split at ran
    · next free =>
      obtain rfl := Option.some.inj ran
      refine .act (base.setState _ _ _) here rfl (by rintro ⟨⟩) bound ?_ (.quiet here rfl rfl rfl)
      rw [Cfg.labelAt, if_pos free, view_setState]
      exact .take (.inl (role here)) bound free
    · next other =>
      obtain rfl := Option.some.inj ran
      exact .jump base here (by rintro ⟨⟩) (if_neg other) (bounded_scan ..) (role_scan ..)
        (watch_scan ..)
  | acqOwner a slot scan =>
    obtain rfl : _ = c' := by simpa only [Cfg.run, here, Option.some.injEq] using ran
    have bounded := base.bounded_at here
    refine .act (base.store _ (by simp [Write.Foreign, SlotField])) here rfl (by rintro ⟨⟩) bounded
      ?_ (.quiet here rfl rfl rfl)
    rw [view_store_owner]
    exact .own (role here)
  | acqGen a slot scan =>
    have bounded := base.bounded_at here
    simp only [Cfg.run, here] at ran
    split at ran
    · next zero =>
      obtain rfl := Option.some.inj ran
      refine .act (base.bump _) here rfl (by rintro ⟨⟩) bounded ?_ (.quiet here rfl rfl rfl)
      rw [view_bump]
      exact .incZero (role here) zero
    · next nonzero =>
      obtain rfl := Option.some.inj ran
      refine .act ((base.bump _).note _) here rfl (by rintro ⟨⟩) (bounded_acquired _ _ _ bounded) ?_
        (.quiet here rfl rfl (watch_acquired ..))
      rw [view_note, view_bump, role_acquired]
      exact .inc (role here) (.inl ⟨rfl, nonzero⟩)
  | acqGenAgain a slot scan =>
    obtain rfl : _ = c' := by simpa only [Cfg.run, here, Option.some.injEq] using ran
    have bounded := base.bounded_at here
    refine .act ((base.bump _).note _) here rfl (by rintro ⟨⟩) (bounded_acquired _ _ _ bounded) ?_
      (.quiet here rfl rfl (watch_acquired ..))
    rw [view_note, view_bump, role_acquired]
    exact .inc (role here) (.inr rfl)
  | acqStoreHint a id =>
    obtain rfl : _ = c' := by simpa only [Cfg.run, here, Option.some.injEq] using ran
    have bounded := base.bounded_at here
    refine .act (base.store _ (by simp [Write.Foreign, SlotField])) here rfl (by rintro ⟨⟩) bounded
      ?_ (.quiet here rfl rfl rfl)
    rw [view_store_hint]
    exact .hint (role here)
  | recState a i =>
    simp only [Cfg.run, here] at ran
    split at ran
    · obtain rfl := Option.some.inj ran
      exact .jump base here (by rintro ⟨⟩) rfl (bounded_recover ..) (role_recover ..)
        (watch_recover ..)
    · next taken =>
      obtain rfl := Option.some.inj ran
      refine .jump base here (by rintro ⟨⟩) rfl ⟨base.bounded_at here, fun free => taken ?_⟩ rfl rfl
      rw [free]
      decide
  | recOwner a i state =>
    have bounded := base.bounded_at here
    simp only [Cfg.run, here] at ran
    split at ran
    · obtain rfl := Option.some.inj ran
      exact .jump base here (by rintro ⟨⟩) rfl (bounded_recover ..) (role_recover ..)
        (watch_recover ..)
    · obtain rfl := Option.some.inj ran
      exact .jump base here (by rintro ⟨⟩) rfl bounded rfl rfl
  | recAlive a i state pid =>
    have bounded := base.bounded_at here
    simp only [Cfg.run, here] at ran
    split at ran
    · next alive =>
      obtain rfl := Option.some.inj ran
      exact .jump base here (by rintro ⟨⟩) (if_pos alive) (bounded_recover ..) (role_recover ..)
        (watch_recover ..)
    · next condemned =>
      split at ran
      · next dead =>
        obtain rfl := Option.some.inj ran
        refine .act base here rfl (by rintro ⟨⟩) bounded ?_ (.quiet here rfl rfl rfl)
        rw [Cfg.labelAt, if_neg condemned]
        exact .condemn (role here) bounded.1 bounded.2 dead
      · cases ran
  | recClear a i state =>
    obtain rfl : _ = c' := by simpa only [Cfg.run, here, Option.some.injEq] using ran
    have bounded := base.bounded_at here
    refine .act (base.store _ (by simp [Write.Foreign, SlotField])) here rfl (by rintro ⟨⟩) bounded
      ?_ (.quiet here rfl rfl rfl)
    rw [view_store_owner]
    exact .clear (role here)
  | recFree a i state =>
    have bounded := base.bounded_at here
    simp only [Cfg.run, here] at ran
    split at ran
    · next same =>
      obtain rfl := Option.some.inj ran
      refine .act (base.setState _ _ _) here rfl (by rintro ⟨⟩) bounded.1 ?_
        (.quiet here rfl rfl rfl)
      rw [view_setState]
      exact .free (role here) same
    · next other =>
      obtain rfl := Option.some.inj ran
      refine .act base here rfl (by rintro ⟨⟩) (bounded_recover ..) ?_
        (.quiet here rfl rfl (watch_recover ..))
      rw [role_recover]
      exact .recoverMiss (role here) (by rintro ⟨⟩) other
  | recStat a i =>
    obtain rfl : _ = c' := by simpa only [Cfg.run, here, Option.some.injEq] using ran
    have bounded := base.bounded_at here
    exact .store base (by simp [Write.Foreign, SlotField]) (by rintro ⟨⟩) (by rintro _ ⟨⟩) here
      (by rintro ⟨⟩) rfl bounded rfl rfl
  | recGrab a i =>
    have bounded := base.bounded_at here
    simp only [Cfg.run, here] at ran
    split at ran
    · next free =>
      obtain rfl := Option.some.inj ran
      refine .act (base.setState _ _ _) here rfl (by rintro ⟨⟩) bounded ?_ (.quiet here rfl rfl rfl)
      rw [Cfg.labelAt, if_pos free, view_setState]
      exact .take (.inr (role here)) bounded free
    · next other =>
      obtain rfl := Option.some.inj ran
      refine .act base here rfl (by rintro ⟨⟩) (bounded_recover ..) ?_
        (.quiet here rfl rfl (watch_recover ..))
      rw [Cfg.labelAt, if_neg other, Pc.role, role_recover]
      exact .recoverMiss (role here) (by rintro ⟨⟩) other
  | releaseOwner id next =>
    obtain rfl : _ = c' := by simpa only [Cfg.run, here, Option.some.injEq] using ran
    have bounded := base.bounded_at here
    refine .act ((base.store _ (by simp [Write.Foreign, SlotField])).note _) here rfl (by rintro ⟨⟩)
      bounded ?_ (.quiet here rfl rfl rfl)
    rw [view_note, view_store_owner]
    exact .releaseOwner (role here)
  | releaseState id next =>
    obtain rfl : _ = c' := by simpa only [Cfg.run, here, Option.some.injEq] using ran
    have bounded := base.bounded_at here
    refine .act (base.setState _ _ _) here rfl (by rintro ⟨⟩) bounded ?_ (.quiet here rfl rfl rfl)
    rw [view_setState]
    exact .releaseState (role here)
  | send a id =>
    obtain ⟨sent, ws, run, queue, q, after, ids⟩ := send_step ok base here
    simp only [Cfg.run, here, run] at ran
    cases sent with
    | true =>
      obtain rfl := Option.some.inj ran
      have stored : Base S { c with mem := c.mem.writeAll ws, pending := c.pending ++ [id] } :=
        ⟨⟨q, after, ids⟩, base.short, base.bounded⟩
      refine .act stored here rfl (by rintro ⟨⟩) (bounded_sent ..) ?_
        (.quiet here rfl (waiters_queue queue _) (watch_sent ..))
      have sentRole : (Pc.sent a id).role = if id ≠ 0 then .waiting id else .idle := by
        unfold Pc.sent
        split
        · rfl
        · exact role_sendFailed a false
      rw [view_queue queue, Pc.role, sentRole]
      exact .send (role here)
    | false =>
      obtain rfl := Option.some.inj ran
      have stored : Base S { c with mem := c.mem.writeAll ws } :=
        ⟨⟨q, after, ids⟩, base.short, base.bounded⟩
      refine .act stored here rfl (by rintro ⟨⟩) (bounded_sendFailed ..) ?_
        (.quiet here rfl (waiters_queue queue c.pending) (watch_sendFailed ..))
      rw [view_queue queue, Pc.role, role_sendFailed]
      exact .drop (role here)
  | sendLoadSeq noSlots =>
    obtain rfl : _ = c' := by simpa only [Cfg.run, here, Option.some.injEq] using ran
    exact .jump base here (by rintro ⟨⟩) rfl trivial rfl rfl
  | sendTimeout noSlots fseq =>
    obtain rfl : _ = c' := by simpa only [Cfg.run, here, Option.some.injEq] using ran
    split
    · exact .jump base here (by rintro ⟨⟩) rfl trivial rfl rfl
    · exact .jump base here (by rintro ⟨⟩) rfl trivial rfl rfl
  | sendAddWaiters noSlots fseq =>
    obtain rfl : _ = c' := by simpa only [Cfg.run, here, Option.some.injEq] using ran
    exact .store base
      (by cases noSlots <;> simp [sendWord, WakeWord.waiters, Write.Foreign, SlotField])
      (by cases noSlots <;> exact id) (by cases noSlots <;> rintro _ ⟨⟩) here (by rintro ⟨⟩) rfl
      trivial rfl rfl
  | sendFutexWait noSlots fseq =>
    obtain rfl : _ = c' := by simpa only [Cfg.run, here, Option.some.injEq] using ran
    unfold Cfg.futexWait
    split
    · exact .jump base here (by rintro ⟨⟩) rfl trivial rfl rfl
    · exact .jump base here (by rintro ⟨⟩) rfl trivial rfl rfl
  | sendAsleep noSlots => simp [Cfg.run, here] at ran
  | sendSubWaiters noSlots =>
    obtain rfl : _ = c' := by simpa only [Cfg.run, here, Option.some.injEq] using ran
    exact .store base
      (by cases noSlots <;> simp [sendWord, WakeWord.waiters, Write.Foreign, SlotField])
      (by cases noSlots <;> exact id) (by cases noSlots <;> rintro _ ⟨⟩) here (by rintro ⟨⟩) rfl
      trivial rfl rfl
  | sendErr =>
    obtain rfl : _ = c' := by simpa only [Cfg.run, here, Option.some.injEq] using ran
    split
    · exact .jump base here (by rintro ⟨⟩) rfl trivial rfl rfl
    · exact .jump base here (by rintro ⟨⟩) rfl trivial rfl rfl
  | spinErr id i =>
    obtain rfl : _ = c' := by simpa only [Cfg.run, here, Option.some.injEq] using ran
    split
    · exact .act base here rfl (by rintro ⟨⟩) (bounded_giveUp id) (.giveUp (.inl (role here)))
        (.quiet here rfl rfl rfl)
    · exact .jump base here (by rintro ⟨⟩) rfl trivial rfl rfl
  | spinGen id i =>
    obtain rfl : _ = c' := by simpa only [Cfg.run, here, Option.some.injEq] using ran
    split
    · exact .act base here rfl (by rintro ⟨⟩) (bounded_giveUp id) (.giveUp (.inl (role here)))
        (.quiet here rfl rfl rfl)
    · exact .jump base here (by rintro ⟨⟩) rfl trivial rfl rfl
  | spinState id i =>
    obtain rfl : _ = c' := by simpa only [Cfg.run, here, Option.some.injEq] using ran
    split
    · next ready =>
      refine .act base here rfl (by rintro ⟨⟩) trivial ?_ (.quiet here rfl rfl rfl)
      rw [Cfg.labelAt, if_pos ready]
      exact .read (.inl ⟨role here, ready⟩)
    · next other =>
      have unlabelled : c.labelAt S ans (.spinState id i) = none := if_neg other
      split
      · exact .jump base here (by rintro ⟨⟩) unlabelled trivial rfl rfl
      · exact .jump base here (by rintro ⟨⟩) unlabelled trivial rfl rfl
  | waitAdd id =>
    obtain rfl : _ = c' := by simpa only [Cfg.run, here, Option.some.injEq] using ran
    exact .register base here
  | waitState id =>
    obtain rfl : _ = c' := by simpa only [Cfg.run, here, Option.some.injEq] using ran
    by_cases ready : c.state (idSlot id) = layoutRespReady
    · refine .act base here rfl (by rintro ⟨⟩) trivial ?_ (.quiet here rfl rfl rfl)
      rw [show (Pc.waitGen id (c.state (idSlot id))).role = .sawReady id from if_pos ready]
      exact .look (role here) ready
    · exact .jump base here (by rintro ⟨⟩) rfl trivial (if_neg ready) rfl
  | waitGen id state =>
    obtain rfl : _ = c' := by simpa only [Cfg.run, here, Option.some.injEq] using ran
    split
    · next moved =>
      refine .act base here rfl (by rintro ⟨⟩) trivial ?_ (.quiet here rfl rfl rfl)
      rw [Cfg.labelAt, if_neg fun both => moved both.1]
      refine .giveUp ?_
      rw [role here, Pc.role]
      split
      · exact .inr rfl
      · exact .inl rfl
    · next same =>
      have same := not_not.mp same
      split
      · next ready =>
        refine .act base here rfl (by rintro ⟨⟩) trivial ?_ (.quiet here rfl rfl rfl)
        rw [Cfg.labelAt, if_pos ⟨same, ready⟩]
        exact .read (.inr ⟨(role here).trans (if_pos ready), same⟩)
      · next other =>
        exact .jump base here (by rintro ⟨⟩) (if_neg fun both => other both.2) other
          (if_neg other).symm rfl
  | waitErr id state =>
    obtain rfl : _ = c' := by simpa only [Cfg.run, here, Option.some.injEq] using ran
    have bounded := base.bounded_at here
    split
    · exact .act base here rfl (by rintro ⟨⟩) trivial (.giveUp (.inl (role here)))
        (.quiet here rfl rfl rfl)
    · exact .jump base here (by rintro ⟨⟩) rfl bounded rfl rfl
  | waitTimeout id state =>
    obtain rfl : _ = c' := by simpa only [Cfg.run, here, Option.some.injEq] using ran
    have bounded := base.bounded_at here
    split
    · exact .act base here rfl (by rintro ⟨⟩) trivial (.giveUp (.inl (role here)))
        (.quiet here rfl rfl rfl)
    · exact .jump base here (by rintro ⟨⟩) rfl bounded rfl rfl
  | waitFutexWait id state =>
    obtain rfl : _ = c' := by simpa only [Cfg.run, here, Option.some.injEq] using ran
    have unready : state ≠ layoutRespReady := base.bounded_at here
    unfold Cfg.futexWait
    split
    · next same =>
      have same : c.state (idSlot id) = state := same
      subst same
      exact .unseen base rfl rfl here (by rintro ⟨⟩) rfl trivial rfl (.sleep id here unready rfl)
    · exact .jump base here (by rintro ⟨⟩) rfl trivial rfl rfl
  | waitAsleep id => simp [Cfg.run, here] at ran
  | waitErrAfter id =>
    obtain rfl : _ = c' := by simpa only [Cfg.run, here, Option.some.injEq] using ran
    split
    · exact .act base here rfl (by rintro ⟨⟩) trivial (.giveUp (.inl (role here)))
        (.quiet here rfl rfl rfl)
    · exact .jump base here (by rintro ⟨⟩) rfl trivial rfl rfl
  | waitLeave id result =>
    obtain rfl : _ = c' := by simpa only [Cfg.run, here, Option.some.injEq] using ran
    exact .leave base here
  | answer id result =>
    obtain rfl : _ = c' := by simpa only [Cfg.run, here, Option.some.injEq] using ran
    exact .act (base.note _) here rfl (by rintro ⟨⟩) trivial (.answer (role here))
      (.quiet here rfl rfl rfl)
  | readLen id registered =>
    obtain rfl : _ = c' := by simpa only [Cfg.run, here, Option.some.injEq] using ran
    split
    · refine .act base here rfl (by rintro ⟨⟩) (bounded_waitReturn ..) ?_
        (.quiet here rfl rfl (watch_waitReturn ..))
      rw [Pc.role, role_waitReturn_none]
      exact .readLong (role here)
    · next fits =>
      refine .act base here rfl (by rintro ⟨⟩) (bounded_readNext ..) ?_
        (.quiet here rfl rfl (watch_readNext ..))
      rw [role_readNext]
      exact .readLen (role here) (UInt32.not_lt.mp fits)
  | readCopy id registered length result =>
    obtain rfl : _ = c' := by simpa only [Cfg.run, here, Option.some.injEq] using ran
    refine .act base here rfl (by rintro ⟨⟩) (bounded_readNext ..) ?_
      (.quiet here rfl rfl (watch_readNext ..))
    rw [role_readNext]
    exact .readByte (role here)
  | cancelGen id next =>
    obtain rfl : _ = c' := by simpa only [Cfg.run, here, Option.some.injEq] using ran
    have bounded := base.bounded_at here
    split
    · next miss =>
      exact .act base here rfl (by rintro ⟨⟩) bounded.1 (.cancelMiss (role here) miss)
        (.quiet here rfl rfl rfl)
    · next hit =>
      exact .act base here rfl (by rintro ⟨⟩) bounded
        (.cancelHit (role here) (not_not.mp (not_or.mp hit).2)) (.quiet here rfl rfl rfl)
  | cancelCas id next =>
    simp only [Cfg.run, here] at ran
    have bounded := base.bounded_at here
    split at ran
    · next acquired =>
      obtain rfl := Option.some.inj ran
      refine .act ((base.setState _ _ _).note _) here rfl (by rintro ⟨⟩) bounded ?_
        (.begin (idSlot id) (.cancels (idSlot id)) ?_ (decide_eq_true rfl) (watch_goto _ _ _) rfl)
      · rw [Cfg.labelAt, if_pos acquired, view_note, view_setState]
        exact .casHit (role here) acquired
      · rw [Cfg.watch, here]
        exact bounded.2
    · next other =>
      obtain rfl := Option.some.inj ran
      refine .act base here rfl (by rintro ⟨⟩) bounded.1 ?_ (.quiet here rfl rfl rfl)
      rw [Cfg.labelAt, if_neg other]
      exact .casMiss (role here) other
  | cancelOwner id next =>
    obtain rfl : _ = c' := by simpa only [Cfg.run, here, Option.some.injEq] using ran
    have bounded := base.bounded_at here
    refine .act (base.store _ (by simp [Write.Foreign, SlotField])) here rfl (by rintro ⟨⟩) bounded
      ?_ (.quiet here rfl rfl rfl)
    rw [view_store_owner]
    exact .cancelOwner (role here)
  | cancelBump id next =>
    obtain rfl : _ = c' := by simpa only [Cfg.run, here, Option.some.injEq] using ran
    have bounded := base.bounded_at here
    refine .act (base.bump _) here rfl (by rintro ⟨⟩) bounded ?_ (.quiet here rfl rfl rfl)
    rw [view_bump]
    exact .cancelBump (role here)
  | cancelLoad id next =>
    obtain rfl : _ = c' := by simpa only [Cfg.run, here, Option.some.injEq] using ran
    have bounded := base.bounded_at here
    split
    · exact .jump base here (by rintro ⟨⟩) rfl bounded rfl rfl
    · next none =>
      exact .unseen base rfl rfl here (by rintro ⟨⟩) rfl bounded.1 rfl
        (.quit (idSlot id) (by rw [Cfg.watch, here]; exact decide_eq_true rfl)
          (waiters_eq_zero none) (.wakeBump .slot next) bounded.2 rfl)
  | cancelWake id next =>
    simp only [Cfg.run, here] at ran
    have bounded := base.bounded_at here
    obtain ⟨c₀, woke, rfl⟩ := Option.map_eq_some_iff.mp ran
    exact .wake base woke here (by rintro ⟨⟩) rfl rfl bounded.1 rfl
      (.wake (idSlot id) _ _ c₀ (.inl ⟨by rw [Cfg.watch, here]; rfl, rfl⟩) woke
        (.wakeBump .slot next) bounded.2 rfl)
  | drainGen id =>
    obtain rfl : _ = c' := by simpa only [Cfg.run, here, Option.some.injEq] using ran
    split
    · next miss =>
        exact .act base here rfl (by rintro ⟨⟩) trivial (.drainMiss (role here) miss)
          (.quiet here rfl rfl rfl)
    · next hit =>
      exact .act base here rfl (by rintro ⟨⟩) trivial
        (.drainHit (role here) (not_not.mp (not_or.mp hit).2)) (.quiet here rfl rfl rfl)
  | drainState id =>
    obtain rfl : _ = c' := by simpa only [Cfg.run, here, Option.some.injEq] using ran
    split
    · next other =>
      refine .act base here rfl (by rintro ⟨⟩) trivial ?_ (.quiet here rfl rfl rfl)
      rw [Cfg.labelAt, if_neg other]
      exact .drainEnd (role here) other
    · next ready =>
      have ready := not_not.mp ready
      refine .act base here rfl (by rintro ⟨⟩) trivial ?_ (.quiet here rfl rfl rfl)
      rw [Cfg.labelAt, if_pos ready]
      exact .drainFree (role here) ready
  | recvTry a =>
    obtain ⟨got, ws, run, queue, ⟨q, after, ids⟩, empty, first⟩ := recv_step base
    simp only [Cfg.run, here, run] at ran
    cases got with
    | none =>
      obtain rfl := Option.some.inj ran
      have stored : Base S { c with mem := c.mem.writeAll ws } := by
        refine ⟨⟨q, after, ?_⟩, base.short, base.bounded⟩
        rw [ids, empty rfl, List.tail_nil]
      exact .quiet stored (view_queue queue c.pending) rfl (waiters_queue queue c.pending) here
        (by rintro ⟨⟩)
        rfl (bounded_recvFailed ..) (role_recvFailed ..) (watch_recvFailed ..)
    | some r =>
      obtain ⟨data, id⟩ := r
      obtain rfl := Option.some.inj ran
      have stored : Base S { c with mem := c.mem.writeAll ws, pending := c.pending.tail } :=
        ⟨⟨q, after, ids⟩, base.short, base.bounded⟩
      refine .act stored here rfl (by rintro ⟨⟩) trivial ?_
        (.quiet here rfl (waiters_queue queue _) rfl)
      rw [view_queue queue]
      exact .recv (role here) (first data id rfl)
  | recvLoadSeq =>
    obtain rfl : _ = c' := by simpa only [Cfg.run, here, Option.some.injEq] using ran
    exact .jump base here (by rintro ⟨⟩) rfl trivial rfl rfl
  | recvErr fseq =>
    obtain rfl : _ = c' := by simpa only [Cfg.run, here, Option.some.injEq] using ran
    split
    · exact .jump base here (by rintro ⟨⟩) rfl trivial rfl rfl
    · exact .jump base here (by rintro ⟨⟩) rfl trivial rfl rfl
  | recvAddWaiters fseq =>
    obtain rfl : _ = c' := by simpa only [Cfg.run, here, Option.some.injEq] using ran
    exact .store base (by simp [Write.Foreign, SlotField]) (by rintro ⟨⟩) (by rintro _ ⟨⟩) here
      (by rintro ⟨⟩) rfl trivial rfl rfl
  | recvFutexWait fseq =>
    obtain rfl : _ = c' := by simpa only [Cfg.run, here, Option.some.injEq] using ran
    unfold Cfg.futexWait
    split
    · exact .jump base here (by rintro ⟨⟩) rfl trivial rfl rfl
    · exact .jump base here (by rintro ⟨⟩) rfl trivial rfl rfl
  | recvAsleep => simp [Cfg.run, here] at ran
  | recvSubWaiters =>
    obtain rfl : _ = c' := by simpa only [Cfg.run, here, Option.some.injEq] using ran
    exact .store base (by simp [Write.Foreign, SlotField]) (by rintro ⟨⟩) (by rintro _ ⟨⟩) here
      (by rintro ⟨⟩) rfl trivial rfl rfl
  | recvErrAfter =>
    obtain rfl : _ = c' := by simpa only [Cfg.run, here, Option.some.injEq] using ran
    split
    · exact .jump base here (by rintro ⟨⟩) rfl trivial rfl rfl
    · exact .jump base here (by rintro ⟨⟩) rfl trivial rfl rfl
  | handle id =>
    simp only [Cfg.run, here] at ran
    split at ran
    · obtain rfl := Option.some.inj ran
      exact .act base here rfl (by rintro ⟨⟩) ⟨trivial, rfl⟩ (.fail (role here))
        (.quiet here rfl rfl rfl)
    · next response _ =>
      obtain rfl := Option.some.inj ran
      split
      · exact .act (base.note _) here rfl (by rintro ⟨⟩) trivial (.refuse (role here))
          (.quiet here rfl rfl rfl)
      · next fits =>
        exact .act (base.note _) here rfl (by rintro ⟨⟩) trivial
          (.reply (role here) (Nat.le_of_not_lt (not_or.mp fits).2)) (.quiet here rfl rfl rfl)
  | writeState id response =>
    obtain rfl : _ = c' := by simpa only [Cfg.run, here, Option.some.injEq] using ran
    split
    · exact .act base here rfl (by rintro ⟨⟩) trivial (.writeStop (role here))
        (.quiet here rfl rfl rfl)
    · next acquired =>
      exact .act base here rfl (by rintro ⟨⟩) trivial
        (.writeState (role here) (not_not.mp acquired)) (.quiet here rfl rfl rfl)
  | writeGen id response =>
    obtain rfl : _ = c' := by simpa only [Cfg.run, here, Option.some.injEq] using ran
    split
    · exact .act base here rfl (by rintro ⟨⟩) trivial (.writeStop (role here))
        (.quiet here rfl rfl rfl)
    · next gen =>
      refine .act base here rfl (by rintro ⟨⟩) (bounded_writeNext ..) ?_
        (.quiet here rfl rfl (watch_writeNext ..))
      rw [role_writeNext]
      exact .writeGen (role here) (not_not.mp gen)
  | writeCopy id response k =>
    obtain rfl : _ = c' := by simpa only [Cfg.run, here, Option.some.injEq] using ran
    have stored := base.write (w := .w8 (.respSlotData (idSlot id) k) (response.getD k 0))
      (by rintro _ ⟨⟩)
    refine .act stored here rfl (by rintro ⟨⟩) (bounded_writeNext ..) ?_
      (.quiet here rfl rfl (watch_writeNext ..))
    rw [role_writeNext, view_set8]
    exact .writeByte (role here)
  | writeLen id response =>
    obtain rfl : _ = c' := by simpa only [Cfg.run, here, Option.some.injEq] using ran
    refine .act (base.store _ (by simp [Write.Foreign, SlotField])) here rfl (by rintro ⟨⟩) trivial
      ?_ (.quiet here rfl rfl rfl)
    rw [view_store_len]
    exact .writeLen (role here)
  | writeFlags id response =>
    obtain rfl : _ = c' := by simpa only [Cfg.run, here, Option.some.injEq] using ran
    exact .store base (by simp [Write.Foreign, SlotField]) (by rintro ⟨⟩) (by rintro _ ⟨⟩) here
      (by rintro ⟨⟩) rfl trivial rfl rfl
  | writeCas id response =>
    simp only [Cfg.run, here] at ran
    split at ran
    · next acquired =>
      obtain rfl := Option.some.inj ran
      refine .act (base.store _ (by simp [Write.Foreign, SlotField])) here rfl (by rintro ⟨⟩)
        trivial ?_
        (.begin (idSlot id) (.publishes (idSlot id)) (by rw [Cfg.watch, here]; rfl)
          (decide_eq_true rfl) (watch_goto _ _ _) rfl)
      rw [Cfg.labelAt, if_pos acquired, view_store_state]
      exact .publish (role here) acquired
    · next other =>
      obtain rfl := Option.some.inj ran
      refine .act base here rfl (by rintro ⟨⟩) trivial ?_ (.quiet here rfl rfl rfl)
      rw [Cfg.labelAt, if_neg other]
      exact .writeStop (role here)
  | writeLoad id =>
    obtain rfl : _ = c' := by simpa only [Cfg.run, here, Option.some.injEq] using ran
    split
    · exact .jump base here (by rintro ⟨⟩) rfl trivial rfl rfl
    · next none =>
      exact .unseen base rfl rfl here (by rintro ⟨⟩) rfl trivial rfl
        (.quit (idSlot id) (by rw [Cfg.watch, here]; exact decide_eq_true rfl)
          (waiters_eq_zero none) _ rfl rfl)
  | writeWake id =>
    simp only [Cfg.run, here] at ran
    obtain ⟨c₀, woke, rfl⟩ := Option.map_eq_some_iff.mp ran
    exact .wake base woke here (by rintro ⟨⟩) rfl rfl trivial rfl
      (.wake (idSlot id) _ _ c₀ (.inr ⟨by rw [Cfg.watch, here]; rfl, rfl⟩) woke _ rfl rfl)
  | writeStat =>
    obtain rfl : _ = c' := by simpa only [Cfg.run, here, Option.some.injEq] using ran
    exact .quiet (base.write (w := .w64 .hdrStatReplies _) ⟨(by rintro ⟨⟩), (by rintro ⟨⟩)⟩) rfl rfl
      rfl here (by rintro ⟨⟩)
      rfl trivial rfl rfl

private theorem step_setThread (base : Base S c) {th : Thread}
    (short : th.pc ≠ .idle → Short th.req) (bounded : th.pc.Bounded S.shm)
    (same : th.pc.role = (c.thr t).pc.role) :
    Base S { c with thr := Function.update c.thr t th } ∧
      c.view.Step S none ({ c with thr := Function.update c.thr t th } : Cfg n).view := by
  refine ⟨base.setThread short bounded, ?_⟩
  rw [view_setThread, same, show c.view.become t (c.thr t).pc.role = c.view from become_self _ t]
  exact .stutter

/-- A step of the machine is a step of the view. -/
theorem step_simulated (ok : S.shm.QueueOk) (base : Base S c) {act : Act n}
    (ran : c.step S act = some c') :
    Base S c' ∧ c.view.Step S (c.label S act) c'.view := by
  unfold Cfg.step at ran
  split at ran
  · cases ran
  · next live =>
    have live : ∀ t, act.thread = some t → c.dead (S.pid t) = false := by
      intro t acts
      rw [acts] at live
      simpa using live
    cases act with
    | run t ans =>
      obtain ⟨base', move⟩ := run_simulated ok base ran
      refine ⟨base', ?_⟩
      rcases move with ⟨unlabelled, same⟩ | move
      · rw [same, Cfg.label, unlabelled]
        exact .stutter
      · exact .move (live t rfl) move
    | query t req =>
      dsimp only at ran
      split at ran
      · next idle =>
        obtain rfl := Option.some.inj ran
        by_cases long : req.length > layoutStrLenMask.toNat
        · refine step_setThread base ?_ ?_ ?_
          · simp [long]
          · simp [long, Pc.Bounded]
          · simp [long, idle]
        · refine step_setThread base (fun _ => Nat.le_of_not_lt long) ?_ ?_
          · simp [long, Pc.Bounded]
          · simp [long, idle, Pc.role]
      · cases ran
    | serve t =>
      dsimp only at ran
      split at ran
      · next idle =>
        obtain rfl := Option.some.inj ran
        exact step_setThread base (fun _ => Nat.zero_le _) trivial (by rw [idle]; rfl)
      · cases ran
    | cancelCtx t =>
      obtain rfl := Option.some.inj ran
      exact step_setThread base (base.short t) (base.bounded t) rfl
    | deadline t =>
      obtain rfl := Option.some.inj ran
      exact step_setThread base (base.short t) (base.bounded t) rfl
    | wakeup t =>
      dsimp only at ran
      split at ran
      · cases ran
      · next asleep =>
        obtain rfl := Option.some.inj ran
        have busy : (c.thr t).pc ≠ .idle := by
          intro idle
          rw [idle] at asleep
          exact asleep rfl
        refine ⟨base.goto busy ((bounded_awake _).mpr (base.bounded t)), ?_⟩
        rw [view_stutter rfl (role_awake _)]
        exact .stutter
    | die pid =>
      obtain rfl := Option.some.inj ran
      exact ⟨⟨base.queue, base.short, base.bounded⟩, .die pid⟩

/-- What a step does to sleepers and wakers. -/
theorem step_watches (ok : S.shm.QueueOk) (base : Base S c) {act : Act n}
    (acts : act.thread = some t) (ran : c.step S act = some c') : Watches S c t c' := by
  unfold Cfg.step at ran
  split at ran
  · cases ran
  have setThread : ∀ th : Thread, th.pc.watch = (c.thr t).pc.watch →
      Watches S c t { c with thr := Function.update c.thr t th } := by
    intro th same
    refine .same ?_ rfl
    rw [watch_setThread, same]
    exact Function.update_eq_self t c.watch
  cases act with
  | run t' ans =>
    obtain rfl : t' = t := Option.some.inj acts
    exact (run_simulated ok base ran).watches
  | query t' req =>
    obtain rfl : t' = t := Option.some.inj acts
    dsimp only at ran
    split at ran
    · next idle =>
      obtain rfl := Option.some.inj ran
      refine setThread _ ?_
      rw [idle]
      dsimp only
      split <;> rfl
    · cases ran
  | serve t' =>
    obtain rfl : t' = t := Option.some.inj acts
    dsimp only at ran
    split at ran
    · next idle =>
      obtain rfl := Option.some.inj ran
      refine setThread _ ?_
      rw [idle]
      rfl
    · cases ran
  | cancelCtx t' | deadline t' =>
    obtain rfl : t' = t := Option.some.inj acts
    obtain rfl := Option.some.inj ran
    exact setThread _ rfl
  | wakeup t' =>
    obtain rfl : t' = t := Option.some.inj acts
    dsimp only at ran
    split at ran
    · cases ran
    · obtain rfl := Option.some.inj ran
      cases here : (c.thr t').pc with
      | waitAsleep id =>
        refine .wakeup id ?_ (watch_goto _ _ _) rfl
        rw [Cfg.watch, here]
        rfl
      | _ => exact .quiet here rfl rfl rfl
  | die pid => cases acts

end ReqRep
