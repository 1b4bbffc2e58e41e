import ReqRep.Machine.Vigil

/-!
# Senders are not stranded

A stranded sender sleeps in `sendWait` although a slot is FREE and the queue would take
its request, and nobody is going to wake it or to try again. The accounts of
`slot_futex` and `send_futex` leave no such sender where both of them hold.
-/

namespace ReqRep

variable {n : Nat} {S : Setup n} {T T' : Tally n} {c c' : Cfg n} {t u : Fin n} {act : Act n}
  {acts : List (Act n)}

/-! ## The claim -/

/-- A sender that is trying or going to try again: a wait that is to come finds another
value than the one it loaded. Whoever releases a slot is going to bump `slot_futex`. -/
def Pc.retries (stale : WakeWord → UInt32 → Bool) : Pc → Bool
  | .sendLoadSeq _ | .sendSubWaiters _ | .sendErr => true
  | .sendTimeout noSlots fseq | .sendAddWaiters noSlots fseq | .sendFutexWait noSlots fseq =>
    stale (sendWord noSlots) fseq
  | .releaseOwner _ next | .releaseState _ next =>
    next.retries fun w fseq => w = .slot || stale w fseq
  | pc => pc.attempt.isSome

/-- An awake sender with a live context that is going to try again. -/
def Cfg.retries (c : Cfg n) (u : Fin n) : Bool :=
  (c.thr u).live .send && (c.thr u).pc.retries fun w fseq => c.seq w ≠ fseq

/-- `sendLocked` would take the request of `u` with slot `i`. -/
def Cfg.accepts (S : Setup n) (c : Cfg n) (u : Fin n) (i : UInt32) : Bool :=
  ((sendLocked S.shm (c.thr u).req i (c.gen i + 1)).run c.mem).map Prod.fst = some true

/-- A live sender sleeps although a slot is FREE and the queue would take its request, and
nobody is about to wake it or to try again. -/
structure Stranded (S : Setup n) (c : Cfg n) (u : Fin n) : Prop where
  asleep : ∃ noSlots, (c.thr u).pc = .sendAsleep noSlots
  alive : c.dead (S.pid u) = false
  live : (c.thr u).live .send = true
  room : ∃ i < S.shm.respSlots, c.free i = true ∧ c.accepts S u i = true
  /-- Nobody is between a dequeue or a release and the end of the wake helper. -/
  untold : ∀ v, (c.thr v).pc.due ≠ some .send ∧ (c.thr v).pc.due ≠ some .slot
  tired : ∀ v, c.retries v = false

/-! ## Waiting for the queue -/

/-- The second attempt loads `send_futex`. -/
def Attempt.queues : Attempt → Bool
  | .second noSlots _ => !noSlots
  | _ => false

/-- In the loop of `sendWait`, with a failed attempt behind that found the queue full. -/
def Pc.queues : Pc → Bool
  | .sendLoadSeq noSlots | .sendTimeout noSlots _ | .sendAddWaiters noSlots _
  | .sendFutexWait noSlots _ | .sendAsleep noSlots | .sendSubWaiters noSlots => !noSlots
  | pc => pc.attempt.any Attempt.queues

theorem queues_awake (pc : Pc) : pc.awake.queues = pc.queues := by cases pc <;> rfl

theorem queues_sendFailed {a : Attempt} (slots : a.queues = false) :
    (Pc.sendFailed a true).queues = false := by
  cases a <;> first | rfl | exact slots

theorem queues_recover (s : Shm) {a : Attempt} (i : UInt32) (slots : a.queues = false) :
    (Pc.recover s a i).queues = false := by
  unfold Pc.recover
  split
  · exact slots
  · exact queues_sendFailed slots

theorem queues_scan (s : Shm) {a : Attempt} (hint i : UInt32) (slots : a.queues = false) :
    (Pc.scan s a hint i).queues = false := by
  unfold Pc.scan
  split
  · exact slots
  · exact queues_recover s 0 slots

/-- A sender without a slot does not begin to wait for the queue. -/
theorem run_queues {ans : Answer n} (ran : c.run S t ans = some c')
    (seeks : (c.thr t).pc.seeks = true) (slots : (c.thr t).pc.queues = false)
    (still : (c'.thr t).pc.seeks = true) : (c'.thr t).pc.queues = false := by
  unfold Cfg.run at ran
  cases here : (c.thr t).pc with
  | acqHint a =>
    simp only [here] at ran slots
    cases ran
    rw [goto_pc]
    exact queues_scan _ _ _ slots
  | acqCas a hint i =>
    simp only [here] at ran slots
    split at ran <;> cases ran
    · rw [goto_pc] at still
      cases still
    · rw [goto_pc]
      exact queues_scan _ _ _ slots
  | recState a i =>
    simp only [here] at ran slots
    split at ran <;> cases ran
    · rw [goto_pc]
      exact queues_recover _ _ slots
    · rw [goto_pc]
      exact slots
  | recOwner a i state =>
    simp only [here] at ran slots
    split at ran <;> cases ran
    · rw [goto_pc]
      exact queues_recover _ _ slots
    · rw [goto_pc]
      exact slots
  | recAlive a i state pid =>
    simp only [here] at ran slots
    split at ran
    · cases ran
      rw [goto_pc]
      exact queues_recover _ _ slots
    · split at ran <;> cases ran
      rw [goto_pc] at still
      cases still
  | sendLoadSeq noSlots | sendAddWaiters noSlots fseq | sendSubWaiters noSlots | sendErr =>
    simp only [here] at ran slots
    cases ran
    rw [goto_pc]
    first
      | exact slots
      | rfl
      | (split <;> rfl)
  | sendTimeout noSlots fseq =>
    simp only [here] at ran slots
    cases ran
    rw [goto_pc]
    split
    · rfl
    · exact slots
  | sendFutexWait noSlots fseq =>
    simp only [here] at ran slots
    cases ran
    rw [Cfg.futexWait, goto_pc]
    split <;> exact slots
  | sendAsleep noSlots =>
    simp only [here] at ran
    cases ran
  | _ =>
    rw [here] at seeks
    cases seeks

/-- A goroutine that is in a call and does not run stays, or is woken. -/
theorem step_pc (stepped : c.step S act = some c') (other : ∀ ans, act ≠ .run u ans)
    (busy : (c.thr u).pc ≠ .idle) :
    (c'.thr u).pc = (c.thr u).pc ∨ (c'.thr u).pc = (c.thr u).pc.awake := by
  by_cases own : act.thread = some u
  · unfold Cfg.step at stepped
    split at stepped
    · cases stepped
    cases act with
    | run t ans =>
      obtain rfl := Option.some.inj own
      exact absurd rfl (other ans)
    | query t req | serve t =>
      obtain rfl := Option.some.inj own
      simp [busy] at stepped
    | cancelCtx t | deadline t =>
      obtain rfl := Option.some.inj own
      cases stepped
      simp only [Function.update_self, true_or]
    | wakeup t =>
      obtain rfl := Option.some.inj own
      dsimp only at stepped
      split at stepped <;> cases stepped
      rw [goto_pc]
      exact .inr rfl
    | die pid => cases own
  · rcases step_thr_of_ne stepped own with same | ⟨-, awake⟩
    · exact .inl (by rw [same])
    · exact .inr (by rw [awake])

/-- Whoever was woken for a slot does not wait for the queue. -/
def Tally.Inclined (T : Tally n) : Prop :=
  ∀ u, T.owes .slot u = true → (T.cfg.thr u).pc.queues = false

/-- Whoever sleeps for a slot does not wait for the queue. -/
theorem queues_of_sleepsOn {pc : Pc} (asleep : pc.sleepsOn = some .slot) : pc.queues = false := by
  cases pc with
  | sendAsleep noSlots => cases noSlots <;> first | rfl | cases asleep
  | _ => cases asleep

/-- Whoever was woken for a slot looks for slots until it has settled that. -/
theorem Tally.Inclined.step (inclined : T.Inclined) (attended : Attended S .slot T)
    (after : Attended S .slot T') (stepped : T.step S act = some T') : T'.Inclined := by
  intro u owed
  obtain ⟨moved, -, owes⟩ := Tally.step_eq stepped
  by_cases runs : ∃ ans, act = .run u ans
  · obtain ⟨ans, rfl⟩ := runs
    have still := (after.owes u owed).1
    rw [owes, owes_run_self, Bool.and_eq_true] at owed
    exact run_queues (step_run moved).2 (attended.owes u owed.1).1 (inclined u owed.1) still
  · have before : (T.cfg.thr u).pc.queues = false ∧ (T.cfg.thr u).pc ≠ .idle := by
      have kept : T.owes .slot u = true → (T.cfg.thr u).pc.queues = false ∧
          (T.cfg.thr u).pc ≠ .idle := by
        refine fun owed => ⟨inclined u owed, fun idle => ?_⟩
        have loops := (attended.owes u owed).1
        rw [idle] at loops
        cases loops
      rw [owes] at owed
      unfold Tally.owesAfter at owed
      cases act with
      | run t ans =>
        have ne : u ≠ t := fun same => runs ⟨ans, by rw [same]⟩
        simp only [if_neg ne, Bool.or_eq_true, Bool.and_eq_true, decide_eq_true_eq] at owed
        rcases owed with owed | ⟨asleep, -⟩
        · exact kept owed
        · refine ⟨queues_of_sleepsOn asleep, fun idle => ?_⟩
          rw [idle] at asleep
          cases asleep
      | _ => exact kept owed
    rcases step_pc moved (fun ans same => runs ⟨ans, same⟩) before.2 with same | awake
    · rw [same]
      exact before.1
    · rw [awake, queues_awake]
      exact before.1

/-! ## The two accounts -/

/-- A free slot is missed. -/
theorem missed_slot_ne_zero {i : UInt32} (inside : i < S.shm.respSlots) (free : c.free i = true) :
    c.missed S (.whole .slot) ≠ 0 := by
  rw [missed_slot rfl]
  intro none
  have taken := Count.count_eq_zero.mp none ⟨i.toNat, UInt32.lt_iff_toNat_lt.mp inside⟩
  simp [UInt32.ofNat_toNat, free, Check.covers] at taken

/-- Room in the queue is missed. -/
theorem missed_send_ne_zero {i : UInt32} (queueOk : S.shm.QueueOk) (base : Base S c)
    (busy : (c.thr u).pc ≠ .idle) (inside : i < S.shm.respSlots)
    (accepts : c.accepts S u i = true) : c.missed S (.whole .send) ≠ 0 := by
  obtain ⟨q, queue, ids⟩ := base.queue
  have short := base.short u busy
  obtain ⟨sent, ws, run, outcome⟩ := sendLocked_run (r := ⟨(c.thr u).req, i, c.gen i + 1⟩) short
    inside ⟨c.mem, []⟩ queue.wpos_bound
  have here : sent = true := by
    rw [Cfg.accepts, Exec.run] at accepts
    simpa [run] using accepts
  rcases send_represents queueOk queue short outcome with ⟨refused, -⟩ | ⟨-, space, -⟩
  · rw [here] at refused
    cases refused
  · have count : q.length = c.pending.length := by rw [← ids, List.length_map]
    show S.shm.reqCap.toNat - c.pending.length ≠ 0
    omega

/-- A value that was bumped since its load is stale. -/
theorem Tally.Tallied.stale {w : WakeWord} {f : UInt32} (tallied : Tally.Tallied S T)
    (loaded : (T.cfg.thr u).pc.loaded = some (w, f)) (bumped : T.since u ≠ 0)
    (few : T.since u < 2 ^ 32) : T.cfg.seq w ≠ f := by
  rw [tallied.loaded u w f loaded]
  intro same
  have none : UInt32.ofNat (T.since u) = 0 := by
    have sum : f + UInt32.ofNat (T.since u) = f + 0 := by rw [same, UInt32.add_zero]
    exact (UInt32.add_right_inj f).mp sum
  have nat := congrArg UInt32.toNat none
  rw [UInt32.toNat_ofNat', Nat.mod_eq_of_lt few] at nat
  exact bumped nat

/-- Both accounts hold, and no wait takes so long that its word wraps. -/
structure Tended (S : Setup n) (T : Tally n) : Prop where
  tallied : Tally.Tallied S T
  send : Attended S .send T
  slot : Attended S .slot T
  inclined : T.Inclined
  few : ∀ u, T.since u < 2 ^ 32

theorem dues_eq_zero {w : WakeWord} (untold : ∀ v, (c.thr v).pc.due ≠ some w) : c.dues w = 0 :=
  Count.count_eq_zero.mpr fun v => decide_eq_false (untold v)

/-- Where nobody is going to tell of what there is, a sender that is about to wait for it
finds another value. -/
theorem Attended.stale {w : WakeWord} {f : UInt32} (attended : Attended S w T)
    (tallied : Tally.Tallied S T) (few : T.since u < 2 ^ 32)
    (untold : ∀ v, (T.cfg.thr v).pc.due ≠ some w) (missed : T.cfg.missed S (.whole w) ≠ 0)
    (checks : (T.cfg.thr u).pc.checks = some (.whole w))
    (loaded : (T.cfg.thr u).pc.loaded = some (w, f)) : T.cfg.seq w ≠ f := by
  refine tallied.stale loaded (fun still => missed ?_) few
  have heard := attended.heard u _ checks rfl still
  have unsaids := unsaids_le_dues T.cfg w
  have dues := dues_eq_zero untold
  omega

/-- Somebody who was woken owes a retry. -/
theorem Attended.somebody {w : WakeWord} (attended : Attended S w T)
    (asleep : (T.cfg.thr u).pc.sleepsOn = some w) (alive : T.cfg.dead (S.pid u) = false)
    (untold : ∀ v, (T.cfg.thr v).pc.due ≠ some w) (missed : T.cfg.missed S (.whole w) ≠ 0) :
    ∃ v, T.owes w v = true := by
  have watched := attended.watched u asleep alive
  rw [dues_eq_zero untold] at watched
  exact Count.exists_of_count_pos (p := id) (f := T.owes w) (show 0 < T.owing w by omega)

/-! ## No sender is stranded -/

/-- An awake sender outside the wake helpers tries again, if what it has looked for in
vain has come up. -/
theorem retries_of_sends {stale : WakeWord → UInt32 → Bool} {pc : Pc} (flat : pc.Flat)
    (sends : pc.sends = true) (untold : pc.due ≠ some .slot) (awake : pc.sleepsOn = none)
    (late : ∀ noSlots fseq, pc.checks = some (.whole (sendWord noSlots)) →
      pc.loaded = some (sendWord noSlots, fseq) → stale (sendWord noSlots) fseq = true) :
    pc.retries stale = true := by
  induction pc generalizing stale with
  | sendLoadSeq | sendSubWaiters | sendErr => rfl
  | sendTimeout noSlots fseq | sendAddWaiters noSlots fseq | sendFutexWait noSlots fseq =>
    exact late noSlots fseq rfl rfl
  | releaseOwner id next ih | releaseState id next ih =>
    have silent := Pc.of_plain flat.1
    refine ih flat.2 sends (by rw [silent.due]; nofun) silent.sleeps
      fun noSlots fseq checks loaded => ?_
    cases noSlots with
    | true => rfl
    | false => exact late false fseq (Option.filter_eq_some_iff.mpr ⟨checks, rfl⟩) loaded
  | wakeBump w next | wakeLoad w next | wakeCall w next =>
    cases w with
    | slot => exact absurd rfl untold
    | recv | send => cases sends
  | sendAsleep noSlots => cases awake
  | _ => first | rfl | cases sends

/-- Where there is a slot and room in the queue and nobody is going to tell of them, no
awake sender gives up. -/
theorem Tended.retries (tended : Tended S T)
    (untold : ∀ v, (T.cfg.thr v).pc.due ≠ some .send ∧ (T.cfg.thr v).pc.due ≠ some .slot)
    (free : T.cfg.missed S (.whole .slot) ≠ 0) (room : T.cfg.missed S (.whole .send) ≠ 0)
    (sends : (T.cfg.thr u).pc.sends = true) (live : (T.cfg.thr u).live .send = true)
    (awake : (T.cfg.thr u).pc.sleepsOn = none) : T.cfg.retries u = true := by
  rw [Cfg.retries, live]
  refine retries_of_sends (tended.tallied.flat u) sends (untold u).2 awake
    fun noSlots fseq checks loaded => decide_eq_true ?_
  cases noSlots with
  | true =>
    exact tended.slot.stale tended.tallied (tended.few u) (fun v => (untold v).2) free checks loaded
  | false =>
    exact tended.send.stale tended.tallied (tended.few u) (fun v => (untold v).1) room checks loaded

/-- Nobody sleeps for a slot then. -/
theorem Tended.somebody_slot (tended : Tended S T)
    (untold : ∀ v, (T.cfg.thr v).pc.due ≠ some .send ∧ (T.cfg.thr v).pc.due ≠ some .slot)
    (free : T.cfg.missed S (.whole .slot) ≠ 0) (room : T.cfg.missed S (.whole .send) ≠ 0)
    (asleep : (T.cfg.thr u).pc.sleepsOn = some .slot) (alive : T.cfg.dead (S.pid u) = false) :
    ∃ v, T.cfg.retries v = true := by
  obtain ⟨v, owes⟩ := tended.slot.somebody asleep alive (fun v => (untold v).2) free
  obtain ⟨seeks, live, awake⟩ := tended.slot.owes v owes
  have slots := tended.inclined v owes
  have awake : (T.cfg.thr v).pc.sleepsOn = none := by
    cases here : (T.cfg.thr v).pc with
    | sendAsleep noSlots =>
      rw [here] at slots awake
      cases noSlots with
      | true => exact absurd rfl awake
      | false => cases slots
    | recvAsleep =>
      rw [here] at seeks
      cases seeks
    | _ => rfl
  exact ⟨v, tended.retries untold free room (sends_of_seeks seeks) live awake⟩

/-- Nor for the queue. -/
theorem Tended.somebody_send (tended : Tended S T)
    (untold : ∀ v, (T.cfg.thr v).pc.due ≠ some .send ∧ (T.cfg.thr v).pc.due ≠ some .slot)
    (free : T.cfg.missed S (.whole .slot) ≠ 0) (room : T.cfg.missed S (.whole .send) ≠ 0)
    (asleep : (T.cfg.thr u).pc.sleepsOn = some .send) (alive : T.cfg.dead (S.pid u) = false) :
    ∃ v, T.cfg.retries v = true := by
  obtain ⟨v, owes⟩ := tended.send.somebody asleep alive (fun v => (untold v).1) room
  obtain ⟨sends, live, awake⟩ := tended.send.owes v owes
  have alive := (tended.send.calm nofun).1
  cases here : (T.cfg.thr v).pc.sleepsOn with
  | none => exact ⟨v, tended.retries untold free room sends live here⟩
  | some w =>
    cases w with
    | slot => exact tended.somebody_slot untold free room here (alive _)
    | send => exact absurd here awake
    | recv =>
      cases pc : (T.cfg.thr v).pc with
      | sendAsleep noSlots =>
        rw [pc] at here
        cases noSlots <;> cases here
      | recvAsleep =>
        rw [pc] at sends
        cases sends
      | _ =>
        rw [pc] at here
        cases here

/-- Where both accounts hold, no sender is stranded. -/
theorem Tended.not_stranded (queueOk : S.shm.QueueOk) (tended : Tended S T) :
    ¬ Stranded S T.cfg u := by
  intro stranded
  obtain ⟨noSlots, here⟩ := stranded.asleep
  obtain ⟨i, inside, free, accepts⟩ := stranded.room
  have free := missed_slot_ne_zero inside free
  have room := missed_send_ne_zero queueOk tended.tallied.base (u := u) (by rw [here]; nofun) inside
    accepts
  have retries : ∃ v, T.cfg.retries v = true := by
    cases noSlots with
    | true =>
      exact tended.somebody_slot stranded.untold free room (u := u) (by rw [here]; rfl)
        stranded.alive
    | false =>
      exact tended.somebody_send stranded.untold free room (u := u) (by rw [here]; rfl)
        stranded.alive
  obtain ⟨v, retries⟩ := retries
  rw [stranded.tired v] at retries
  cases retries

/-- The condition of both accounts. -/
structure Considerate (S : Setup n) (T : Tally n) (act : Act n) : Prop where
  send : Fair S .send T act
  slot : Fair S .slot T act

/-- In every run whose steps are all considerate no sender is stranded, where no word was
bumped 2^32 times since a sender loaded it to wait on it. -/
theorem senders_not_stranded (queueOk : S.shm.QueueOk) (slots : 0 < S.shm.respSlots)
    (start : Start S c) (none : ∀ w, c.waiting w = 0)
    (ran : (Tally.start c).steps S acts = some T)
    (always : Runs.Always (Tally.step S) (Considerate S) (Tally.start c) acts)
    (few : ∀ u, T.since u < 2 ^ 32) (u : Fin n) : ¬ Stranded S T.cfg u := by
  have kept : Tally.Tallied S T ∧ Attended S .send T ∧ Attended S .slot T ∧ T.Inclined := by
    refine Runs.invariant (fun T => Tally.Tallied S T ∧ Attended S .send T ∧ Attended S .slot T ∧
      T.Inclined) ?_ ran always ⟨.start start none, start.attended .send, start.attended .slot,
        fun u owes => nomatch owes⟩
    rintro T act T' ⟨tallied, send, slot, inclined⟩ considerate stepped
    have after := slot.step queueOk (fun _ => slots) tallied considerate.slot stepped
    exact ⟨tallied.step queueOk stepped,
      send.step queueOk (fun _ => slots) tallied considerate.send stepped, after,
      inclined.step slot after stepped⟩
  obtain ⟨tallied, send, slot, inclined⟩ := kept
  exact Tended.not_stranded queueOk ⟨tallied, send, slot, inclined, few⟩

/-- What the goroutine that runs has in hand is looked at, not all of its type. -/
def decideHeld {α : Type} (runner : Option (Fin n)) (held : Fin n → Option α)
    (p : Fin n → α → Prop) [∀ t a, Decidable (p t a)] :
    Decidable (∀ t ∈ runner, ∀ a ∈ held t, p t a) :=
  have _ := fun t => Option.decidableForallMem (p := p t) (held t)
  Option.decidableForallMem runner

instance (S : Setup n) (w : WakeWord) (T : Tally n) (act : Act n) : Decidable (Fair S w T act) :=
  have _ := decideHeld act.runner (fun t => (T.cfg.thr t).pc.scanning) fun _ => S.shm.Reaches
  have _ := decideHeld act.runner (fun t => (T.cfg.thr t).pc.recovering) fun _ a =>
    a.loaded.map Prod.fst ≠ some .send
  have _ := decideHeld act.runner (fun t => (T.cfg.thr t).pc.sending) fun t id =>
    ((sendLocked S.shm (T.cfg.thr t).req (idSlot id) (idGen id)).run T.cfg.mem).map Prod.fst =
      some false → T.cfg.pending.length = S.shm.reqCap.toNat
  have _ : Decidable ((∀ u ∈ act.woken, (T.cfg.thr u).pc.sleepsOn = some w →
      (T.cfg.thr u).live w = true) ∧ (∀ u, T.owes w u = true → act.ends w u = false) ∧
      (w ≠ .recv → act.thread.isSome = true)) := inferInstance
  decidable_of_iff ((T.cfg.registered w < 2 ^ 32 ∧
      ∀ t ∈ act.runner, (T.cfg.thr t).pc.registeredOn = some w → T.since t < 2 ^ 32) ∧
      ((∀ u ∈ act.woken, (T.cfg.thr u).pc.sleepsOn = some w → (T.cfg.thr u).live w = true) ∧
        (∀ u, T.owes w u = true → act.ends w u = false) ∧
        (w ≠ .recv → act.thread.isSome = true)) ∧
      (w = .slot → ∀ t ∈ act.runner, ∀ hint ∈ (T.cfg.thr t).pc.scanning, S.shm.Reaches hint) ∧
      (w = .send → ∀ t ∈ act.runner, ∀ a ∈ (T.cfg.thr t).pc.recovering,
        a.loaded.map Prod.fst ≠ some .send) ∧
      (w = .send → ∀ t ∈ act.runner, ∀ id ∈ (T.cfg.thr t).pc.sending,
        ((sendLocked S.shm (T.cfg.thr t).req (idSlot id) (idGen id)).run T.cfg.mem).map Prod.fst =
          some false → T.cfg.pending.length = S.shm.reqCap.toNat) ∧
      (w ≠ .recv → ∀ t ∈ act.runner, (T.cfg.thr t).pc.sending ≠ some 0))
    ⟨fun ⟨⟨few, bumps⟩, ⟨wakes, stays, alive⟩, scans, slot, full, ids⟩ =>
        ⟨few, bumps, wakes, stays, alive, scans, slot, full, ids⟩,
      fun ⟨few, bumps, wakes, stays, alive, scans, slot, full, ids⟩ =>
        ⟨⟨few, bumps⟩, ⟨wakes, stays, alive⟩, scans, slot, full, ids⟩⟩

instance (S : Setup n) (T : Tally n) (act : Act n) : Decidable (Considerate S T act) :=
  decidable_of_iff (Fair S .send T act ∧ Fair S .slot T act)
    ⟨fun ⟨send, slot⟩ => ⟨send, slot⟩, fun ⟨send, slot⟩ => ⟨send, slot⟩⟩

/-- A sender sleeps behind one that has the only slot. The context of that one ends, it
gives the slot back, and the sleeper takes it. -/
def sleepingSender : List (Act 2) :=
  [[.query 0 [1]], go 0 8, [.query 1 [2]], go 1 14, [.cancelCtx 0], go 0 8,
    [.run 0 { woken := [1] }], go 1 9].flatten

theorem senders_not_stranded_sleepingSender :
    ∃ T, (Tally.start (freshCfg 2)).steps (tinySetup 2) sleepingSender = some T ∧
      ¬ Stranded (tinySetup 2) T.cfg 1 := by
  have ends : ((Tally.start (freshCfg 2)).steps (tinySetup 2) sleepingSender).any (fun T =>
      decide (∀ u, T.since u < 2 ^ 32)) = true := by decide +kernel
  obtain ⟨T, ran, few⟩ := (Option.any_eq_true _ _).mp ends
  have always : Runs.Always (Tally.step (tinySetup 2)) (Considerate (tinySetup 2))
      (Tally.start (freshCfg 2)) sleepingSender := by decide +kernel
  exact ⟨T, ran, senders_not_stranded (by decide) (by decide) (freshCfg_start 2)
    (fun w => by cases w <;> rfl) ran always (of_decide_eq_true few) 1⟩

/-- A `Query` whose context ends behind its `sendLocked`: it cancels its request, which
stays queued. -/
def queryAndCancel : List (Act 3) := [[.query 0 [1]], go 0 8, [.cancelCtx 0], go 0 9].flatten

/-- The sender finds the queue full and loads `send_futex` once two receivers have
emptied it. Its second attempt finds the slot taken, so it goes to sleep on
`send_futex`; then the slot is given back. -/
def secondAttempt : List (Act 3) :=
  [queryAndCancel, queryAndCancel, [.query 1 [1]], go 1 10, [.serve 2], go 2 5, [.serve 2], go 2 5,
    go 1 1, [.query 0 [1]], go 0 8, go 1 8, [.cancelCtx 0], go 0 9].flatten

theorem secondAttempt_strands :
    ∃ T, Runs.Meets (Tally.step (tinySetup 3)) (fun T _ => ∀ u, T.since u < 2 ^ 32)
        (Tally.start (freshCfg 3)) secondAttempt T ∧
      Stranded (tinySetup 3) T.cfg 1 := by
  have ends : ((Tally.start (freshCfg 3)).steps (tinySetup 3) secondAttempt).any (fun T =>
      decide ((T.cfg.thr 1).pc = .sendAsleep false ∧
        T.cfg.dead ((tinySetup 3).pid 1) = false ∧ (T.cfg.thr 1).live .send = true ∧
        (T.cfg.free 0 = true ∧ T.cfg.accepts (tinySetup 3) 1 0 = true) ∧
        (∀ v, (T.cfg.thr v).pc.due ≠ some .send ∧ (T.cfg.thr v).pc.due ≠ some .slot) ∧
        ∀ v, T.cfg.retries v = false)) = true := by decide +kernel
  obtain ⟨T, ran, last⟩ := (Option.any_eq_true _ _).mp ends
  obtain ⟨asleep, alive, live, room, untold, tired⟩ := of_decide_eq_true last
  have always : Runs.Always (Tally.step (tinySetup 3)) (fun T _ => ∀ u, T.since u < 2 ^ 32)
      (Tally.start (freshCfg 3)) secondAttempt := by decide +kernel
  exact ⟨T, ⟨ran, always⟩, ⟨false, asleep⟩, alive, live, ⟨0, by decide, room⟩, untold, tired⟩

end ReqRep
