import ReqRep.Machine.Frame
import ReqRep.Machine.Signal
import ReqRep.Machine.Simulate

/-!
# Each operation signals

The case analysis over the counters of the machine for the wake words.
-/

namespace ReqRep

variable {n : Nat} {S : Setup n} {c c' c₀ : Cfg n} {t : Fin n} {ans : Answer n}

/-! ## Stores that no wake word tells of -/

/-- No wake word, no count of waiters, no slot state. -/
def Loc32.Unheard : Loc32 → Prop
  | .hdrRecvFutex | .hdrRecvWaiters | .hdrSendFutex | .hdrSendWaiters | .hdrSlotFutex
  | .hdrSlotWaiters | .respSlotState _ => False
  | _ => True

theorem Cfg.Agrees.refl (c : Cfg n) : c.Agrees c := ⟨rfl, rfl, rfl, rfl, rfl⟩

theorem agrees_of_mem {mem : Mem} (words : ∀ l, ¬ l.Unheard → mem.u32 l = c.mem.u32 l) :
    c.Agrees { c with mem := mem } where
  thr := rfl
  seq := funext fun w => words _ (by cases w <;> exact id)
  waiting := funext fun w => words _ (by cases w <;> exact id)
  pending := rfl
  free := funext fun i => by
    have same : ({ c with mem := mem } : Cfg n).state i = c.state i := words _ id
    rw [Cfg.free, Cfg.free, same]

theorem agrees_store {l : Loc32} (v : UInt32) (unheard : l.Unheard) : c.Agrees (c.store l v) :=
  agrees_of_mem fun l' heard => if_neg fun (same : l' = l) => heard (same ▸ unheard)

theorem agrees_queue {ws : List Write} (queue : ∀ w ∈ ws, w.OfQueue) :
    c.Agrees { c with mem := c.mem.writeAll ws } :=
  agrees_of_mem fun l heard => Mem.writeAll_u32_of_not_mem (fun v member => by
    have ofQueue := queue _ member
    cases l <;> first
      | exact heard trivial
      | simp [Write.OfQueue, SlotField] at ofQueue) c.mem

theorem Cfg.Agrees.note (agrees : c.Agrees c₀) (e : Mark n) : c.Agrees (c₀.note e) :=
  ⟨agrees.thr, agrees.seq, agrees.waiting, agrees.pending, agrees.free⟩

theorem agrees_bump (i : UInt32) : c.Agrees (c.bump i) :=
  have stored := agrees_store (c := c) (l := .respSlotGeneration i) (c.gen i + 1) trivial
  ⟨stored.thr, stored.seq, stored.waiting, stored.pending, stored.free⟩

/-- A response is published in a slot that is not FREE, and it is not FREE then. -/
theorem agrees_publish {i v : UInt32} (was : c.state i ≠ layoutRespFree)
    (now : v ≠ layoutRespFree) :
    c.Agrees (c.store (.respSlotState i) v) where
  thr := rfl
  seq := funext fun w => if_neg (by cases w <;> nofun)
  waiting := funext fun w => if_neg (by cases w <;> nofun)
  pending := rfl
  free := funext fun k => by
    by_cases same : k = i
    · subst same
      have stored : (c.store (.respSlotState k) v).state k = v := if_pos rfl
      rw [Cfg.free, Cfg.free, stored, decide_eq_false was, decide_eq_false now]
    · have kept : (c.store (.respSlotState i) v).state k = c.state k :=
        if_neg fun eq => same (Loc32.respSlotState.inj eq)
      rw [Cfg.free, Cfg.free, kept]

theorem seq_setState (c : Cfg n) (i state : UInt32) (h : Option (Fin n)) :
    (c.setState i state h).seq = c.seq := funext fun w => if_neg (by cases w <;> nofun)

theorem waiting_setState (c : Cfg n) (i state : UInt32) (h : Option (Fin n)) :
    (c.setState i state h).waiting = c.waiting := funext fun w => if_neg (by cases w <;> nofun)

/-! ## Quiet steps -/

/-- What a step of `t` does, and that its subroutines stay flat. -/
structure Signalled (S : Setup n) (c : Cfg n) (t : Fin n) (woken : List (Fin n)) (c' : Cfg n) :
    Prop where
  flat : (c.thr t).pc.Flat → (c'.thr t).pc.Flat
  signals : Signals S c t woken c'

theorem sends_of_seeks {pc : Pc} (seeks : pc.seeks = true) : pc.sends = true := by
  cases pc <;> first | rfl | cases seeks

theorem Glides.of_silent {th : Thread} {pc : Pc} (before : th.pc.Silent) (after : pc.Silent)
    (useless : th.pc.uses = false) (loaded : pc.loaded = th.pc.loaded ∨ pc.loaded = none)
    (checks : pc.checks = th.pc.checks ∨ pc.checks = none)
    (stays : ∀ w, th.pc.loops w = true → pc.loops w = true ∨ pc = .idle ∧ th.live w = false)
    (enters : pc.receives = true → th.pc.receives = true) : Glides th pc where
  silent := before.bumps
  useless := useless
  due := after.due.trans before.due.symm
  unsaid := after.unsaid.trans before.unsaid.symm
  registered := after.registered.trans before.registered.symm
  awake := after.sleeps
  loaded := loaded
  checks := checks
  stays := stays
  enters := enters
  calm := after.calm

theorem Glides.of_plain {th : Thread} {pc : Pc} (before : th.pc.plain = true)
    (useless : th.pc.uses = false) (after : pc.plain = true)
    (loaded : pc.loaded = th.pc.loaded ∨ pc.loaded = none)
    (checks : pc.checks = th.pc.checks ∨ pc.checks = none)
    (stays : ∀ w, th.pc.loops w = true → pc.loops w = true ∨ pc = .idle ∧ th.live w = false) :
    Glides th pc :=
  .of_silent (Pc.of_plain before) (Pc.of_plain after) useless loaded checks stays fun receives => by
    rw [Pc.receives_of_plain after] at receives
    cases receives

private theorem filter_cases (o : Option Check) (p : Check → Bool) :
    o.filter p = o ∨ o.filter p = none := by
  cases o with
  | none => exact .inr rfl
  | some ck =>
    rw [Option.filter]
    split
    · exact .inl rfl
    · exact .inr rfl

/-- From the CAS of a cancellation to its wake helper. -/
theorem Glides.cancelling {th : Thread} {id : UInt64} {next pc : Pc}
    (before : th.pc = .cancelOwner id next ∨ th.pc = .cancelBump id next ∨
      th.pc = .cancelLoad id next ∨ th.pc = .cancelWake id next)
    (after : pc = .cancelBump id next ∨ pc = .cancelLoad id next ∨ pc = .cancelWake id next ∨
      pc = .wakeBump .slot next) : Glides th pc := by
  have told : th.pc.bumps = none ∧ th.pc.uses = false ∧ th.pc.due = some .slot ∧
    th.pc.unsaid = some .slot ∧
      th.pc.registeredOn = none ∧ th.pc.loaded = next.loaded ∧ th.pc.checks = next.checks ∧
      ∀ w, th.pc.loops w = false := by
    rcases before with here | here | here | here <;> rw [here] <;>
      exact ⟨rfl, rfl, rfl, rfl, rfl, rfl, rfl, fun w => by cases w <;> rfl⟩
  obtain ⟨silent, useless, due, unsaid, registered, loaded, checks, apart⟩ := told
  have stays : ∀ w, th.pc.loops w = true → pc.loops w = true ∨ pc = .idle ∧ th.live w = false := by
    intro w loops
    rw [apart] at loops
    cases loops
  rcases after with rfl | rfl | rfl | rfl
  · exact ⟨silent, useless, due.symm, unsaid.symm, registered.symm, rfl, .inl loaded.symm,
      .inl checks.symm, stays, nofun, rfl⟩
  · exact ⟨silent, useless, due.symm, unsaid.symm, registered.symm, rfl, .inl loaded.symm,
      .inl checks.symm, stays, nofun, rfl⟩
  · exact ⟨silent, useless, due.symm, unsaid.symm, registered.symm, rfl, .inl loaded.symm,
      .inl checks.symm, stays, nofun, rfl⟩
  · exact ⟨silent, useless, due.symm, unsaid.symm, registered.symm, rfl, .inl loaded.symm,
      checks ▸ filter_cases next.checks _, stays, nofun, rfl⟩

namespace Signalled

variable {pc pc' : Pc} {woken : List (Fin n)}

theorem act (here : (c.thr t).pc = pc) (flat : pc.Flat → pc'.Flat)
    (signals : Signals S c t woken (c₀.goto t pc')) : Signalled S c t woken (c₀.goto t pc') := by
  subst here
  exact ⟨fun before => by rw [goto_pc]; exact flat before, signals⟩

theorem quiet (here : (c.thr t).pc = pc) (agrees : c.Agrees c₀) (flat : pc.Flat → pc'.Flat)
    (glides : Glides (c.thr t) pc') : Signalled S c t woken (c₀.goto t pc') :=
  .act here flat (.quiet c₀ pc' agrees glides rfl)

/-- A step outside the loops. -/
theorem outside (here : (c.thr t).pc = pc) (agrees : c.Agrees c₀) (before : pc.plain = true)
    (useless : pc.uses = false) (apart : ∀ w, pc.loops w = false) (after : pc'.Outside) :
    Signalled S c t woken (c₀.goto t pc') := by
  refine .quiet here agrees (fun _ => after.flat)
    (.of_plain (here ▸ before) (here ▸ useless) after.plain (.inr after.loaded) (.inr after.checks)
    ?_)
  intro w loops
  rw [here, apart w] at loops
  cases loops

/-- A step within an attempt of `trySend`. -/
theorem within {a : Attempt} (here : (c.thr t).pc = pc) (agrees : c.Agrees c₀)
    (before : pc.Within a) (after : pc'.Within a)
    (checks : pc'.checks = pc.checks ∨ pc'.checks = none) (useless : pc.uses = false)
    (seeks : pc.seeks = true → pc'.seeks = true) :
    Signalled S c t woken (c₀.goto t pc') := by
  refine .quiet here agrees (fun _ => after.flat)
    (.of_plain (here ▸ before.plain) (here ▸ useless) after.plain (.inl ?_) (here ▸ checks) ?_)
  · rw [here, before.loaded, after.loaded]
  · intro w loops
    rw [here] at loops
    cases w with
    | recv =>
      -- no counter is in both loops
      have sends := before.sends
      cases pc <;> first | (cases loops; done) | cases sends
    | send => exact .inl after.sends
    | slot => exact .inl (seeks loops)

/-- From outside the loops to where a subroutine goes on. -/
theorem outward (here : (c.thr t).pc = pc) (agrees : c.Agrees c₀) (before : pc.plain = true)
    (useless : pc.uses = false) (apart : ∀ w, pc.loops w = false) (after : pc'.plain = true)
    (flat : pc'.Flat)
    (loaded : pc'.loaded = pc.loaded ∨ pc'.loaded = none)
    (checks : pc'.checks = pc.checks ∨ pc'.checks = none) :
    Signalled S c t woken (c₀.goto t pc') := by
  refine .quiet here agrees (fun _ => flat) (.of_plain (here ▸ before) (here ▸ useless) after
    (here ▸ loaded) (here ▸ checks) ?_)
  intro w loops
  rw [here, apart w] at loops
  cases loops

/-- Within `recvWait`, or out of it when the context has ended. -/
theorem receiving (here : (c.thr t).pc = pc) (before : pc.Silent) (useless : pc.uses = false)
    (receives : pc.receives = true) (after : pc'.Silent) (flat : pc'.Flat)
    (loaded : pc'.loaded = pc.loaded ∨ pc'.loaded = none)
    (checks : pc'.checks = pc.checks ∨ pc'.checks = none)
    (stays : pc'.receives = true ∨ pc' = .idle ∧ (c.thr t).ctxErr = true) :
    Signalled S c t woken (c.goto t pc') := by
  refine .quiet here (.refl c) (fun _ => flat) (.of_silent (here ▸ before) after (here ▸ useless)
    (here ▸ loaded) (here ▸ checks) (fun w loops => ?_) fun _ => here ▸ receives)
  rw [here] at loops
  cases w with
  | recv => exact stays.imp_right fun ⟨idle, ended⟩ => ⟨idle, by simp [Thread.live, ended]⟩
  | send | slot => cases pc <;> first | (cases receives; done) | cases loops

end Signalled

/-! ## The cases -/

private theorem waiting_eq_zero {w : WakeWord} (none : ¬ c.mem.u32 w.waiters > 0) :
    c.waiting w = 0 := UInt32.le_zero_iff.mp (UInt32.not_lt.mp none)

private theorem not_loops {pc : Pc} (sends : pc.sends = false) (receives : pc.receives = false)
    (w : WakeWord) : pc.loops w = false := by
  cases w with
  | recv => exact receives
  | send => exact sends
  | slot =>
    rw [Bool.eq_false_iff]
    intro seeks
    rw [sends_of_seeks seeks] at sends
    cases sends

private theorem plain_sent (a : Attempt) (id : UInt64) :
    (Pc.sent a id).plain = true ∧ (Pc.sent a id).Flat := by
  unfold Pc.sent
  split
  · exact ⟨rfl, trivial⟩
  · exact ⟨(Pc.within_sendFailed a false).plain, (Pc.within_sendFailed a false).flat⟩

/-- One case for each counter. -/
theorem run_signalled (ok : S.shm.QueueOk) (base : Base S c) (flat : (c.thr t).pc.Flat)
    (ran : c.run S t ans = some c') : Signalled S c t ans.woken c' := by
  cases here : (c.thr t).pc with
  | idle => simp [Cfg.run, here] at ran
  | wakeBump w next =>
    obtain rfl : _ = c' := by simpa only [Cfg.run, here, Option.some.injEq] using ran
    exact .act here id (.bump w next here rfl)
  | wakeLoad w next =>
    simp only [Cfg.run, here] at ran
    split at ran
    · obtain rfl := Option.some.inj ran
      refine .quiet here (.refl c) id
        ⟨?_, ?_, ?_, ?_, ?_, rfl, .inl ?_, .inl ?_, ?_, (by rintro ⟨⟩), rfl⟩
      all_goals rw [here]
      any_goals rfl
      exact fun w' loops => .inl (by cases w <;> cases w' <;> exact loops)
    · next none =>
      obtain rfl := Option.some.inj ran
      exact .act here And.right (.quit w next here (waiting_eq_zero none) rfl)
  | wakeCall w next =>
    simp only [Cfg.run, here] at ran
    obtain ⟨c₀, woke, rfl⟩ := Option.map_eq_some_iff.mp ran
    exact .act here And.right (.call w next c₀ here woke rfl)
  | acqHint a =>
    obtain rfl : _ = c' := by simpa only [Cfg.run, here, Option.some.injEq] using ran
    exact .act here (fun _ => (Pc.within_scan ..).flat) (.scan a here rfl)
  | acqCas a hint i =>
    simp only [Cfg.run, here] at ran
    split at ran
    · next free =>
      obtain rfl := Option.some.inj ran
      exact .act here id (.take a hint i here (decide_eq_true free) rfl)
    · next busy =>
      obtain rfl := Option.some.inj ran
      exact .act here (fun _ => (Pc.within_scan ..).flat)
        (.pass a hint i here (decide_eq_false busy) rfl)
  | acqOwner a slot scan =>
    obtain rfl : _ = c' := by simpa only [Cfg.run, here, Option.some.injEq] using ran
    exact .within here (agrees_store (l := .respSlotOwnerPid slot) _ trivial)
      ⟨rfl, trivial, rfl, rfl⟩ ⟨rfl, trivial, rfl, rfl⟩ (.inr rfl) rfl (by rintro ⟨⟩)
  | acqGen a slot scan =>
    simp only [Cfg.run, here] at ran
    split at ran
    · obtain rfl := Option.some.inj ran
      exact .within here (agrees_bump slot) ⟨rfl, trivial, rfl, rfl⟩ ⟨rfl, trivial, rfl, rfl⟩
        (.inr rfl) rfl (by rintro ⟨⟩)
    · obtain rfl := Option.some.inj ran
      exact .within here ((agrees_bump slot).note _) ⟨rfl, trivial, rfl, rfl⟩
        (Pc.within_acquired ..) (.inr (Pc.checks_acquired ..)) rfl (by rintro ⟨⟩)
  | acqGenAgain a slot scan =>
    obtain rfl : _ = c' := by simpa only [Cfg.run, here, Option.some.injEq] using ran
    exact .within here ((agrees_bump slot).note _) ⟨rfl, trivial, rfl, rfl⟩
      (Pc.within_acquired ..) (.inr (Pc.checks_acquired ..)) rfl (by rintro ⟨⟩)
  | acqStoreHint a id' =>
    obtain rfl : _ = c' := by simpa only [Cfg.run, here, Option.some.injEq] using ran
    exact .within here (agrees_store (l := .hdrRespHint) _ trivial)
      ⟨rfl, trivial, rfl, rfl⟩ ⟨rfl, trivial, rfl, rfl⟩ (.inr rfl) rfl (by rintro ⟨⟩)
  | recState a i =>
    simp only [Cfg.run, here] at ran
    split at ran
    · obtain rfl := Option.some.inj ran
      exact .act here (fun _ => (Pc.within_recover ..).flat) (.recover a _ (by rw [here]; rfl) rfl)
    · obtain rfl := Option.some.inj ran
      refine .within here (.refl c) ⟨rfl, trivial, rfl, rfl⟩ ⟨rfl, trivial, rfl, rfl⟩ (.inl ?_)
        rfl fun _ => rfl
      rcases a with _ | ⟨_ | _, _⟩ | _ <;> rfl
  | recOwner a i state =>
    simp only [Cfg.run, here] at ran
    split at ran
    · obtain rfl := Option.some.inj ran
      exact .act here (fun _ => (Pc.within_recover ..).flat) (.recover a _ (by rw [here]; rfl) rfl)
    · obtain rfl := Option.some.inj ran
      refine .within here (.refl c) ⟨rfl, trivial, rfl, rfl⟩ ⟨rfl, trivial, rfl, rfl⟩ (.inl ?_)
        rfl fun _ => rfl
      rcases a with _ | ⟨_ | _, _⟩ | _ <;> rfl
  | recAlive a i state pid =>
    simp only [Cfg.run, here] at ran
    split at ran
    · obtain rfl := Option.some.inj ran
      exact .act here (fun _ => (Pc.within_recover ..).flat) (.recover a _ (by rw [here]; rfl) rfl)
    · split at ran
      · next dead =>
        obtain rfl := Option.some.inj ran
        exact .act here id (.condemn c _ (.inl ⟨pid, dead⟩) rfl rfl rfl rfl
          ⟨a, by rw [here]; rfl, .inl rfl⟩ rfl)
      · cases ran
  | recClear a i state =>
    obtain rfl : _ = c' := by simpa only [Cfg.run, here, Option.some.injEq] using ran
    have agrees := agrees_store (c := c) (l := .respSlotOwnerPid i) 0 trivial
    exact .act here id (.condemn _ _ (.inr (by rw [here]; rfl)) agrees.thr agrees.seq agrees.waiting
      agrees.pending ⟨a, by rw [here]; rfl, .inl rfl⟩ rfl)
  | recFree a i state =>
    simp only [Cfg.run, here] at ran
    split at ran <;> obtain rfl := Option.some.inj ran
    · exact .act here id (.condemn (c.setState i layoutRespFree none) _ (.inr (by rw [here]; rfl))
        rfl (seq_setState ..) (waiting_setState ..) rfl ⟨a, by rw [here]; rfl, .inl rfl⟩ rfl)
    · exact .act here (fun _ => (Pc.within_recover ..).flat) (.condemn c _
        (.inr (by rw [here]; rfl)) rfl rfl rfl rfl
        ⟨a, by rw [here]; rfl, .inr (.inl (Pc.within_recover ..))⟩ rfl)
  | recStat a i =>
    obtain rfl : _ = c' := by simpa only [Cfg.run, here, Option.some.injEq] using ran
    have agrees := agrees_store (c := c) (l := .hdrStatRecoveries)
      (c.mem.u32 .hdrStatRecoveries + 1) trivial
    exact .act here id (.condemn _ _ (.inr (by rw [here]; rfl)) agrees.thr agrees.seq agrees.waiting
      agrees.pending ⟨a, by rw [here]; rfl, .inl rfl⟩ rfl)
  | recGrab a i =>
    simp only [Cfg.run, here] at ran
    split at ran <;> obtain rfl := Option.some.inj ran
    · exact .act here id (.condemn (c.setState i layoutRespAcquired (some t)) _
        (.inr (by rw [here]; rfl)) rfl (seq_setState ..) (waiting_setState ..) rfl
        ⟨a, by rw [here]; rfl, .inl rfl⟩ rfl)
    · have within := Pc.within_recover S.shm a (i + 1)
      exact .act here (fun _ => ⟨within.plain, within.flat⟩) (.condemn c _
        (.inr (by rw [here]; rfl)) rfl rfl rfl rfl
        ⟨a, by rw [here]; rfl, .inr (.inr ⟨_, rfl, within⟩)⟩ rfl)
  | releaseOwner id' next =>
    obtain rfl : _ = c' := by simpa only [Cfg.run, here, Option.some.injEq] using ran
    have agrees := (agrees_store (c := c) (l := .respSlotOwnerPid (idSlot id')) 0 trivial).note
      (.ended id')
    refine .quiet here agrees id ?_
    refine ⟨?_, ?_, ?_, ?_, ?_, rfl, .inl ?_, .inl ?_, ?_, (by rintro ⟨⟩), rfl⟩
    all_goals rw [here]
    any_goals rfl
    exact fun w loops => .inl (by cases w <;> exact loops)
  | releaseState id' next =>
    obtain rfl : _ = c' := by simpa only [Cfg.run, here, Option.some.injEq] using ran
    exact .act here id (.release id' next here rfl)
  | send a id' =>
    obtain ⟨sent, ws, run, queue, q, after, ids⟩ := send_step ok base here
    simp only [Cfg.run, here, run] at ran
    cases sent with
    | true =>
      obtain rfl := Option.some.inj ran
      have room : c.pending.length < S.shm.reqCap.toNat := by
        have bounded := after.bounded
        have length := congrArg List.length ids
        simp only [List.length_map, if_true, List.length_append, List.length_singleton] at length
        omega
      have agrees := agrees_queue (c := { c with pending := c.pending ++ [id'] }) queue
      exact .act here (fun _ => plain_sent a id') (.enqueue a id' _ here room agrees rfl)
    | false =>
      obtain rfl := Option.some.inj ran
      have within := Pc.within_sendFailed a false
      exact .act here (fun _ => ⟨within.plain, within.flat⟩)
        (.refuse a id' _ here ⟨_, run⟩ (agrees_queue queue) rfl)
  | sendLoadSeq noSlots =>
    obtain rfl : _ = c' := by simpa only [Cfg.run, here, Option.some.injEq] using ran
    exact .act here id (.load (.send noSlots) here rfl)
  | sendTimeout noSlots fseq =>
    obtain rfl : _ = c' := by simpa only [Cfg.run, here, Option.some.injEq] using ran
    split
    · next past =>
      refine .quiet here (.refl c) id
        (.of_plain (by rw [here]; rfl) (by rw [here]; rfl) rfl (.inr rfl) (.inr rfl) ?_)
      intro w loops
      rw [here] at loops
      cases w with
      | recv => cases loops
      | send | slot => exact .inr ⟨rfl, by simp [Thread.live, past]⟩
    · refine .quiet here (.refl c) id
        (.of_plain (by rw [here]; rfl) (by rw [here]; rfl) rfl (.inl (by rw [here]; rfl))
        (.inl (by rw [here]; rfl)) ?_)
      intro w loops
      rw [here] at loops
      exact .inl (by cases w <;> exact loops)
  | sendAddWaiters noSlots fseq =>
    obtain rfl : _ = c' := by simpa only [Cfg.run, here, Option.some.injEq] using ran
    exact .act here id (.join (.send noSlots) fseq here rfl)
  | sendFutexWait noSlots fseq =>
    obtain rfl : _ = c' := by simpa only [Cfg.run, here, Option.some.injEq] using ran
    refine .act here ?_ (.wait (.send noSlots) fseq here rfl)
    split <;> exact id
  | sendAsleep noSlots => simp [Cfg.run, here] at ran
  | sendSubWaiters noSlots =>
    obtain rfl : _ = c' := by simpa only [Cfg.run, here, Option.some.injEq] using ran
    exact .act here id (.leave (.send noSlots) here rfl)
  | sendErr =>
    obtain rfl : _ = c' := by simpa only [Cfg.run, here, Option.some.injEq] using ran
    split
    · next ended =>
      refine .quiet here (.refl c) id
        (.of_plain (by rw [here]; rfl) (by rw [here]; rfl) rfl (.inr rfl) (.inr rfl) ?_)
      intro w loops
      rw [here] at loops
      cases w with
      | recv => cases loops
      | send | slot => exact .inr ⟨rfl, by simp [Thread.live, ended]⟩
    · refine .quiet here (.refl c) id
        (.of_plain (by rw [here]; rfl) (by rw [here]; rfl) rfl (.inr rfl) (.inr rfl) ?_)
      intro w loops
      rw [here] at loops
      exact .inl (by cases w <;> exact loops)
  | spinErr id' i | spinGen id' i =>
    obtain rfl : _ = c' := by simpa only [Cfg.run, here, Option.some.injEq] using ran
    split
    · exact .outside here (.refl c) rfl rfl (not_loops rfl rfl) (Pc.outside_giveUp id')
    · exact .outside here (.refl c) rfl rfl (not_loops rfl rfl) ⟨rfl, trivial, rfl, rfl⟩
  | spinState id' i =>
    obtain rfl : _ = c' := by simpa only [Cfg.run, here, Option.some.injEq] using ran
    split
    · exact .outside here (.refl c) rfl rfl (not_loops rfl rfl) ⟨rfl, trivial, rfl, rfl⟩
    · split <;> exact .outside here (.refl c) rfl rfl (not_loops rfl rfl) ⟨rfl, trivial, rfl, rfl⟩
  | waitAdd id' =>
    obtain rfl : _ = c' := by simpa only [Cfg.run, here, Option.some.injEq] using ran
    exact .outside here (agrees_store (l := .respSlotWaiters (idSlot id')) _ trivial) rfl rfl
      (not_loops rfl rfl) ⟨rfl, trivial, rfl, rfl⟩
  | waitState id' =>
    obtain rfl : _ = c' := by simpa only [Cfg.run, here, Option.some.injEq] using ran
    exact .outside here (.refl c) rfl rfl (not_loops rfl rfl) ⟨rfl, trivial, rfl, rfl⟩
  | waitGen id' state =>
    obtain rfl : _ = c' := by simpa only [Cfg.run, here, Option.some.injEq] using ran
    split
    · exact .outside here (.refl c) rfl rfl (not_loops rfl rfl) ⟨rfl, trivial, rfl, rfl⟩
    · split <;> exact .outside here (.refl c) rfl rfl (not_loops rfl rfl) ⟨rfl, trivial, rfl, rfl⟩
  | waitErr id' state | waitTimeout id' state =>
    obtain rfl : _ = c' := by simpa only [Cfg.run, here, Option.some.injEq] using ran
    split <;> exact .outside here (.refl c) rfl rfl (not_loops rfl rfl) ⟨rfl, trivial, rfl, rfl⟩
  | waitFutexWait id' state =>
    obtain rfl : _ = c' := by simpa only [Cfg.run, here, Option.some.injEq] using ran
    unfold Cfg.futexWait
    split <;> exact .outside here (.refl c) rfl rfl (not_loops rfl rfl) ⟨rfl, trivial, rfl, rfl⟩
  | waitAsleep id' => simp [Cfg.run, here] at ran
  | waitErrAfter id' =>
    obtain rfl : _ = c' := by simpa only [Cfg.run, here, Option.some.injEq] using ran
    split <;> exact .outside here (.refl c) rfl rfl (not_loops rfl rfl) ⟨rfl, trivial, rfl, rfl⟩
  | waitLeave id' result =>
    obtain rfl : _ = c' := by simpa only [Cfg.run, here, Option.some.injEq] using ran
    exact .outside here (agrees_store (l := .respSlotWaiters (idSlot id')) _ trivial) rfl rfl
      (not_loops rfl rfl) (Pc.outside_waitReturn ..)
  | answer id' result =>
    obtain rfl : _ = c' := by simpa only [Cfg.run, here, Option.some.injEq] using ran
    exact .outside here ((Cfg.Agrees.refl c).note _) rfl rfl (not_loops rfl rfl)
      ⟨rfl, trivial, rfl, rfl⟩
  | readLen id' registered =>
    obtain rfl : _ = c' := by simpa only [Cfg.run, here, Option.some.injEq] using ran
    split
    · exact .outside here (.refl c) rfl rfl (not_loops rfl rfl)
        (Pc.outside_releaseOwner (Pc.outside_waitReturn ..))
    · exact .outside here (.refl c) rfl rfl (not_loops rfl rfl) (Pc.outside_readNext ..)
  | readCopy id' registered length result =>
    obtain rfl : _ = c' := by simpa only [Cfg.run, here, Option.some.injEq] using ran
    exact .outside here (.refl c) rfl rfl (not_loops rfl rfl) (Pc.outside_readNext ..)
  | cancelGen id' next =>
    rw [here] at flat
    obtain rfl : _ = c' := by simpa only [Cfg.run, here, Option.some.injEq] using ran
    split
    · exact .outward here (.refl c) rfl rfl (not_loops rfl rfl) flat.1 flat.2 (.inl rfl) (.inl rfl)
    · exact .outward here (.refl c) rfl rfl (not_loops rfl rfl) rfl flat (.inl rfl) (.inl rfl)
  | cancelCas id' next =>
    rw [here] at flat
    simp only [Cfg.run, here] at ran
    split at ran <;> obtain rfl := Option.some.inj ran
    · exact .act here id (.cancel id' next here rfl)
    · exact .outward here (.refl c) rfl rfl (not_loops rfl rfl) flat.1 flat.2 (.inl rfl) (.inl rfl)
  | cancelOwner id' next =>
    obtain rfl : _ = c' := by simpa only [Cfg.run, here, Option.some.injEq] using ran
    exact .quiet here (agrees_store (l := .respSlotOwnerPid (idSlot id')) 0 trivial) id
      (.cancelling (.inl here) (.inl rfl))
  | cancelBump id' next =>
    obtain rfl : _ = c' := by simpa only [Cfg.run, here, Option.some.injEq] using ran
    exact .quiet here (agrees_bump (idSlot id')) id
      (.cancelling (.inr (.inl here)) (.inr (.inl rfl)))
  | cancelLoad id' next =>
    obtain rfl : _ = c' := by simpa only [Cfg.run, here, Option.some.injEq] using ran
    split
    · exact .quiet here (.refl c) id
        (.cancelling (.inr (.inr (.inl here))) (.inr (.inr (.inl rfl))))
    · exact .quiet here (.refl c) id
        (.cancelling (.inr (.inr (.inl here))) (.inr (.inr (.inr rfl))))
  | cancelWake id' next =>
    simp only [Cfg.run, here] at ran
    obtain ⟨c₀, woke, rfl⟩ := Option.map_eq_some_iff.mp ran
    exact .act here id (.wakes _ _ c₀ _ woke
      (.cancelling (.inr (.inr (.inr here))) (.inr (.inr (.inr rfl)))) rfl)
  | drainGen id' =>
    obtain rfl : _ = c' := by simpa only [Cfg.run, here, Option.some.injEq] using ran
    split <;> exact .outside here (.refl c) rfl rfl (not_loops rfl rfl) ⟨rfl, trivial, rfl, rfl⟩
  | drainState id' =>
    obtain rfl : _ = c' := by simpa only [Cfg.run, here, Option.some.injEq] using ran
    split
    · exact .outside here (.refl c) rfl rfl (not_loops rfl rfl) ⟨rfl, trivial, rfl, rfl⟩
    · exact .outside here (.refl c) rfl rfl (not_loops rfl rfl)
        (Pc.outside_releaseOwner ⟨rfl, trivial, rfl, rfl⟩)
  | recvTry a =>
    obtain ⟨got, ws, run, queue, -, none, some⟩ := recv_step base
    simp only [Cfg.run, here, run] at ran
    cases got with
    | none =>
      obtain rfl := Option.some.inj ran
      exact .act here (fun _ => by cases a <;> trivial)
        (.empty a _ here (none rfl) (agrees_queue queue) rfl)
    | some delivered =>
      obtain rfl := Option.some.inj ran
      have agrees := agrees_queue (c := { c with pending := c.pending.tail }) queue
      exact .act here (fun _ => ⟨rfl, trivial⟩)
        (.dequeue a delivered.2 _ here (some _ _ rfl) agrees rfl)
  | recvLoadSeq =>
    obtain rfl : _ = c' := by simpa only [Cfg.run, here, Option.some.injEq] using ran
    exact .act here id (.load .recv here rfl)
  | recvErr fseq =>
    obtain rfl : _ = c' := by simpa only [Cfg.run, here, Option.some.injEq] using ran
    have before : (Pc.recvErr fseq).Silent := ⟨rfl, rfl, rfl, rfl, rfl, rfl⟩
    split
    · next ended =>
      exact .receiving here before rfl rfl (Pc.of_plain rfl) trivial (.inr rfl) (.inr rfl)
        (.inr ⟨rfl, ended⟩)
    · exact .receiving here before rfl rfl ⟨rfl, rfl, rfl, rfl, rfl, rfl⟩ trivial (.inl rfl)
        (.inl rfl) (.inl rfl)
  | recvAddWaiters fseq =>
    obtain rfl : _ = c' := by simpa only [Cfg.run, here, Option.some.injEq] using ran
    exact .act here id (.join .recv fseq here rfl)
  | recvFutexWait fseq =>
    obtain rfl : _ = c' := by simpa only [Cfg.run, here, Option.some.injEq] using ran
    refine .act here ?_ (.wait .recv fseq here rfl)
    split <;> exact id
  | recvAsleep => simp [Cfg.run, here] at ran
  | recvSubWaiters =>
    obtain rfl : _ = c' := by simpa only [Cfg.run, here, Option.some.injEq] using ran
    exact .act here id (.leave .recv here rfl)
  | recvErrAfter =>
    obtain rfl : _ = c' := by simpa only [Cfg.run, here, Option.some.injEq] using ran
    have before : Pc.recvErrAfter.Silent := ⟨rfl, rfl, rfl, rfl, rfl, rfl⟩
    split
    · next ended =>
      exact .receiving here before rfl rfl (Pc.of_plain rfl) trivial (.inr rfl) (.inr rfl)
        (.inr ⟨rfl, ended⟩)
    · exact .receiving here before rfl rfl ⟨rfl, rfl, rfl, rfl, rfl, rfl⟩ trivial (.inr rfl)
        (.inr rfl) (.inl rfl)
  | handle id' =>
    simp only [Cfg.run, here] at ran
    split at ran <;> obtain rfl := Option.some.inj ran
    · exact .outside here (.refl c) rfl rfl (not_loops rfl rfl) ⟨rfl, ⟨rfl, trivial⟩, rfl, rfl⟩
    · split <;> exact .outside here ((Cfg.Agrees.refl c).note _) rfl rfl (not_loops rfl rfl)
        ⟨rfl, trivial, rfl, rfl⟩
  | writeState id' response | writeGen id' response =>
    obtain rfl : _ = c' := by simpa only [Cfg.run, here, Option.some.injEq] using ran
    split
    · exact .outside here (.refl c) rfl rfl (not_loops rfl rfl) ⟨rfl, trivial, rfl, rfl⟩
    · first
        | exact .outside here (.refl c) rfl rfl (not_loops rfl rfl) ⟨rfl, trivial, rfl, rfl⟩
        | exact .outside here (.refl c) rfl rfl (not_loops rfl rfl) (Pc.outside_writeNext ..)
  | writeCopy id' response k =>
    obtain rfl : _ = c' := by simpa only [Cfg.run, here, Option.some.injEq] using ran
    exact .outside here (agrees_of_mem fun l _ => rfl) rfl rfl (not_loops rfl rfl)
      (Pc.outside_writeNext ..)
  | writeLen id' response =>
    obtain rfl : _ = c' := by simpa only [Cfg.run, here, Option.some.injEq] using ran
    exact .outside here (agrees_store (l := .respSlotLen (idSlot id')) _ trivial) rfl rfl
      (not_loops rfl rfl) ⟨rfl, trivial, rfl, rfl⟩
  | writeFlags id' response =>
    obtain rfl : _ = c' := by simpa only [Cfg.run, here, Option.some.injEq] using ran
    exact .outside here (agrees_store (l := .respSlotFlags (idSlot id')) _ trivial) rfl rfl
      (not_loops rfl rfl) ⟨rfl, trivial, rfl, rfl⟩
  | writeCas id' response =>
    simp only [Cfg.run, here] at ran
    split at ran <;> obtain rfl := Option.some.inj ran
    · next acquired =>
      have agrees : c.Agrees (c.store (.respSlotState (idSlot id')) layoutRespReady) :=
        agrees_publish (by rw [acquired]; decide) (by decide)
      exact .outside here agrees rfl rfl (not_loops rfl rfl) ⟨rfl, trivial, rfl, rfl⟩
    · exact .outside here (.refl c) rfl rfl (not_loops rfl rfl) ⟨rfl, trivial, rfl, rfl⟩
  | writeLoad id' =>
    obtain rfl : _ = c' := by simpa only [Cfg.run, here, Option.some.injEq] using ran
    split <;> exact .outside here (.refl c) rfl rfl (not_loops rfl rfl) ⟨rfl, trivial, rfl, rfl⟩
  | writeWake id' =>
    simp only [Cfg.run, here] at ran
    obtain ⟨c₀, woke, rfl⟩ := Option.map_eq_some_iff.mp ran
    refine .act here id (.wakes _ _ c₀ _ woke
      (.of_plain (by rw [here]; rfl) (by rw [here]; rfl) rfl (.inr rfl)
      (.inr rfl) ?_) rfl)
    intro w loops
    rw [here, not_loops rfl rfl w] at loops
    cases loops
  | writeStat =>
    obtain rfl : _ = c' := by simpa only [Cfg.run, here, Option.some.injEq] using ran
    exact .outside here (agrees_of_mem fun l _ => rfl) rfl rfl (not_loops rfl rfl)
      ⟨rfl, trivial, rfl, rfl⟩

end ReqRep
