import ReqRep.Machine.Protocol
import ReqRep.Machine.Watch
import ReqRep.Slots.Whole

/-!
# The machine makes the moves of the protocol

What the slot protocol sees of a configuration, how the updates of the machine
show there, and what the machine keeps beside it.
-/

namespace ReqRep

variable {n : Nat} {S : Setup n} {c c' : Cfg n} {t : Fin n} {ans : Answer n}

/-- What the protocol sees of a configuration. -/
def Cfg.view (c : Cfg n) : View n where
  state := c.state
  gen := c.gen
  owner := c.owner
  len i := c.mem.u32 (.respSlotLen i)
  data i k := c.mem.u8 (.respSlotData i k)
  hint := c.mem.u32 .hdrRespHint
  dead := c.dead
  bumps := c.bumps
  holder := c.holder
  pending := c.pending
  log := c.log
  role t := (c.thr t).pc.role

/-- The label of the operation at a counter. -/
def Cfg.labelAt (S : Setup n) (c : Cfg n) (ans : Answer n) : Pc → Option Label
  | .acqCas _ hint i =>
    let slot := (hint + i) % S.shm.respSlots
    if c.state slot = layoutRespFree then some (.take slot) else none
  | .recGrab _ i => if c.state i = layoutRespFree then some (.take i) else none
  | .cancelCas id _ =>
    if c.state (idSlot id) = layoutRespAcquired then some (.cancel id) else none
  | .cancelOwner id _ => some (.clearOwner id)
  | .cancelBump id _ => some (.bump id)
  | .spinState id _ => if c.state (idSlot id) = layoutRespReady then some (.read id) else none
  | .waitGen id state =>
    if c.gen (idSlot id) = idGen id ∧ state = layoutRespReady then some (.read id) else none
  | .drainState id => if c.state (idSlot id) = layoutRespReady then some (.drain id) else none
  | .writeCopy id _ _ | .writeLen id _ => some (.fill id)
  | .writeCas id _ =>
    if c.state (idSlot id) = layoutRespAcquired then some (.publish id) else none
  | .recAlive _ i _ pid => if ans.alive then none else some (.condemn i pid)
  | _ => none

/-- The label of an act. -/
def Cfg.label (S : Setup n) (c : Cfg n) : Act n → Option Label
  | .run t ans => c.labelAt S ans (c.thr t).pc
  | .die pid => some (.die pid)
  | _ => none

theorem eq_die_of_label {act : Act n} {pid : UInt32} (same : c.label S act = some (.die pid)) :
    act = .die pid := by
  cases act with
  | run t ans =>
    simp only [Cfg.label, Cfg.labelAt] at same
    split at same <;> (try split at same) <;> simp at same
  | die pid' => simpa [Cfg.label] using same
  | _ => simp [Cfg.label] at same

section LabelAt

variable {pc : Pc}

/-- A slot is taken by the CAS of the first pass or by that of the second. -/
theorem labelAt_take {i : UInt32} (label : c.labelAt S ans pc = some (.take i)) :
    (∃ a hint k, pc = .acqCas a hint k) ∨ ∃ a, pc = .recGrab a i := by
  cases pc with
  | acqCas a hint k => exact .inl ⟨a, hint, k, rfl⟩
  | recGrab a k =>
    simp only [Cfg.labelAt] at label
    split at label <;> cases label
    exact .inr ⟨a, rfl⟩
  | _ =>
    simp only [Cfg.labelAt] at label
    first
      | cases label
      | (split at label <;> cases label)

/-- Only `cancelRequest` increments outside of an acquisition. -/
theorem labelAt_bump {id : UInt64} (label : c.labelAt S ans pc = some (.bump id)) :
    ∃ next, pc = .cancelBump id next := by
  cases pc with
  | cancelBump id' next =>
    cases label
    exact ⟨next, rfl⟩
  | _ =>
    simp only [Cfg.labelAt] at label
    first
      | cases label
      | (split at label <;> cases label)

/-- A response is published by the CAS of `writeResponse`. -/
theorem labelAt_publish {id : UInt64} (label : c.labelAt S ans pc = some (.publish id)) :
    ∃ response, pc = .writeCas id response ∧ c.state (idSlot id) = layoutRespAcquired := by
  cases pc with
  | writeCas id' response =>
    simp only [Cfg.labelAt] at label
    split at label
    · next acquired =>
      cases label
      exact ⟨response, rfl, acquired⟩
    · cases label
  | _ =>
    simp only [Cfg.labelAt] at label
    first
      | cases label
      | (split at label <;> cases label)

end LabelAt

/-! ## Roles of the continuations -/

@[simp] theorem role_sendFailed (a : Attempt) (noSlots : Bool) :
    (Pc.sendFailed a noSlots).role = .idle := by
  cases a <;> rfl

@[simp] theorem role_recover (s : Shm) (a : Attempt) (i : UInt32) :
    (Pc.recover s a i).role = .idle := by
  unfold Pc.recover
  split
  · rfl
  · exact role_sendFailed a true

@[simp] theorem role_scan (s : Shm) (a : Attempt) (hint i : UInt32) :
    (Pc.scan s a hint i).role = .idle := by
  unfold Pc.scan
  split
  · rfl
  · exact role_recover s a 0

@[simp] theorem role_recvFailed (a : RecvAttempt) : (Pc.recvFailed a).role = .idle := by
  cases a <;> rfl

@[simp] theorem role_acquired (a : Attempt) (slot gen : UInt32) (scan : Bool) :
    (Pc.acquired a slot gen scan).role = .unsent (packId gen slot) := by
  cases scan <;> rfl

@[simp] theorem role_giveUp (id : UInt64) : (Pc.giveUp id).role = .givingUp id := rfl

@[simp] theorem role_waitReturn_some (id : UInt64) (registered : Bool) (bytes : List UInt8) :
    (Pc.waitReturn id registered (some bytes)).role = .answering id bytes := by
  cases registered <;> rfl

@[simp] theorem role_waitReturn_none (id : UInt64) (registered : Bool) :
    (Pc.waitReturn id registered none).role = .givingUp id := by
  cases registered <;> rfl

@[simp] theorem role_readNext (id : UInt64) (registered : Bool) (length : Nat)
    (result : List UInt8) :
    (Pc.readNext id registered length result).role = .readNext id length result := by
  unfold Pc.readNext Role.readNext
  split
  · rfl
  · simp [Pc.role]

@[simp] theorem role_writeNext (id : UInt64) (response : List UInt8) (k : Nat) :
    (Pc.writeNext id response k).role = .writeNext id response k := by
  unfold Pc.writeNext Role.writeNext
  split <;> rfl

@[simp] theorem role_awake (pc : Pc) : pc.awake.role = pc.role := by
  cases pc <;> rfl

/-! ## Views of the configuration updates -/

/-- The locations that the view reads. -/
def SlotWord : Loc32 → Prop
  | .respSlotState _ | .respSlotGeneration _ | .respSlotOwnerPid _ | .respSlotLen _
  | .hdrRespHint => True
  | _ => False

theorem view_setThread (c : Cfg n) (t : Fin n) (th : Thread) :
    ({ c with thr := Function.update c.thr t th } : Cfg n).view =
      c.view.become t th.pc.role := by
  unfold Cfg.view View.become
  congr 1
  funext t'
  by_cases same : t' = t
  · subst same
    simp
  · simp [same]

@[simp] theorem view_goto (c : Cfg n) (t : Fin n) (pc : Pc) :
    (c.goto t pc).view = c.view.become t pc.role := view_setThread c t _

@[simp] theorem view_note (c : Cfg n) (e : Mark n) : (c.note e).view = c.view.note e := rfl

theorem view_store_other (c : Cfg n) {l : Loc32} (v : UInt32) (other : ¬ SlotWord l) :
    (c.store l v).view = c.view := by
  have ne : ∀ l', SlotWord l' → l' ≠ l := by
    rintro l' word rfl
    exact other word
  have same : ∀ l', SlotWord l' → (c.store l v).mem.u32 l' = c.mem.u32 l' :=
    fun l' word => if_neg (ne l' word)
  unfold Cfg.view Cfg.state Cfg.gen Cfg.owner
  congr 1
  all_goals first
    | exact same .hdrRespHint trivial
    | exact funext fun i => same _ trivial

@[simp] theorem view_store_owner (c : Cfg n) (i v : UInt32) :
    (c.store (.respSlotOwnerPid i) v).view = c.view.setOwner i v := by
  unfold Cfg.view Cfg.store Cfg.state Cfg.gen Cfg.owner View.setOwner
  congr 1
  funext j
  simp [Function.update_apply]

@[simp] theorem view_store_len (c : Cfg n) (i v : UInt32) :
    (c.store (.respSlotLen i) v).view = { c.view with len := Function.update c.view.len i v } := by
  unfold Cfg.view Cfg.store Cfg.state Cfg.gen Cfg.owner
  congr 1
  funext j
  simp [Function.update_apply]

@[simp] theorem view_store_state (c : Cfg n) (i v : UInt32) :
    (c.store (.respSlotState i) v).view =
      { c.view with state := Function.update c.view.state i v } := by
  unfold Cfg.view Cfg.store Cfg.state Cfg.gen Cfg.owner
  congr 1
  funext j
  simp [Function.update_apply]

@[simp] theorem view_store_hint (c : Cfg n) (v : UInt32) :
    (c.store .hdrRespHint v).view = { c.view with hint := v } := rfl

@[simp] theorem view_setState (c : Cfg n) (i v : UInt32) (h : Option (Fin n)) :
    (c.setState i v h).view = c.view.setState i v h := by
  unfold Cfg.view Cfg.setState Cfg.store Cfg.state Cfg.gen Cfg.owner View.setState
  congr 1
  funext j
  simp [Function.update_apply]

@[simp] theorem view_bump (c : Cfg n) (i : UInt32) : (c.bump i).view = c.view.bump i := by
  unfold Cfg.view Cfg.bump Cfg.store Cfg.state Cfg.gen Cfg.owner View.bump
  congr 1
  funext j
  simp [Function.update_apply]

theorem view_set8 (c : Cfg n) (i : UInt32) (k : Nat) (b : UInt8) :
    ({ c with mem := c.mem.set8 (.respSlotData i k) b } : Cfg n).view =
      { c.view with
        data := Function.update c.view.data i (Function.update (c.view.data i) k b) } := by
  unfold Cfg.view Cfg.state Cfg.gen Cfg.owner
  congr 1
  funext j k'
  by_cases here : j = i
  · subst here
    simp [Function.update_apply]
  · simp [here]

/-- Waking goroutines changes no role. -/
theorem view_futexWake {l : Loc32} {k : Nat} {woken : List (Fin n)}
    (woke : c.futexWake S l k woken = some c') : c'.view = c.view := by
  unfold Cfg.futexWake at woke
  split at woke
  · injection woke with woke
    subst woke
    unfold Cfg.view
    congr 1
    funext t
    dsimp only
    split <;> simp
  · cases woke

@[simp] theorem become_self (v : View n) (t : Fin n) : v.become t (v.role t) = v := by
  simp [View.become]

/-- A change of counter that keeps the role. -/
theorem view_stutter {c₀ : Cfg n} {pc : Pc} (mem : c₀.view = c.view)
    (same : pc.role = (c.thr t).pc.role) : (c₀.goto t pc).view = c.view := by
  rw [view_goto, mem, same]
  exact become_self c.view t

/-! ## What the machine keeps for the protocol -/

/-- The slot exists, the state that the second pass loaded was a taken one, the
one that `waitResponse` loaded was not READY, and whoever cancels is out of
`waitResponse`; in a subroutine, where the caller goes on. -/
def Pc.Bounded (s : Shm) : Pc → Prop
  | .wakeBump _ next | .wakeLoad _ next | .wakeCall _ next | .releaseOwner _ next
  | .releaseState _ next => next.Bounded s
  | .cancelGen _ next | .cancelCas _ next | .cancelOwner _ next | .cancelBump _ next
  | .cancelLoad _ next | .cancelWake _ next => next.Bounded s ∧ next.watch = .off
  | .waitErr _ state | .waitTimeout _ state | .waitFutexWait _ state => state ≠ layoutRespReady
  | .acqCas _ _ i | .acqOwner _ i _ | .acqGen _ i _ | .acqGenAgain _ i _ | .recState _ i
  | .recStat _ i | .recGrab _ i => i < s.respSlots
  | .acqStoreHint _ id | .send _ id => idSlot id < s.respSlots
  | .recOwner _ i state | .recAlive _ i state _ | .recClear _ i state | .recFree _ i state =>
    i < s.respSlots ∧ state ≠ layoutRespFree
  | _ => True

section Bounded

variable {s : Shm}

@[simp] theorem bounded_sendFailed (a : Attempt) (noSlots : Bool) :
    (Pc.sendFailed a noSlots).Bounded s := by
  cases a <;> trivial

@[simp] theorem bounded_sent (a : Attempt) (id : UInt64) : (Pc.sent a id).Bounded s := by
  unfold Pc.sent
  split
  · trivial
  · exact bounded_sendFailed a false

@[simp] theorem bounded_recover (a : Attempt) (i : UInt32) : (Pc.recover s a i).Bounded s := by
  unfold Pc.recover
  split
  · next bound => exact bound
  · exact bounded_sendFailed a true

@[simp] theorem bounded_scan (a : Attempt) (hint i : UInt32) : (Pc.scan s a hint i).Bounded s := by
  unfold Pc.scan
  split
  · next bound => exact bound
  · exact bounded_recover a 0

theorem bounded_acquired (a : Attempt) {slot : UInt32} (gen : UInt32) (scan : Bool)
    (bound : slot < s.respSlots) : (Pc.acquired a slot gen scan).Bounded s := by
  cases scan <;> simpa [Pc.acquired, Pc.Bounded] using bound

@[simp] theorem bounded_recvFailed (a : RecvAttempt) : (Pc.recvFailed a).Bounded s := by
  cases a <;> trivial

@[simp] theorem bounded_waitReturn (id : UInt64) (registered : Bool)
    (result : Option (List UInt8)) : (Pc.waitReturn id registered result).Bounded s := by
  cases registered <;> cases result <;> trivial

@[simp] theorem bounded_readNext (id : UInt64) (registered : Bool) (length : Nat)
    (result : List UInt8) : (Pc.readNext id registered length result).Bounded s := by
  unfold Pc.readNext
  split
  · trivial
  · exact bounded_waitReturn id registered (some result)

@[simp] theorem bounded_writeNext (id : UInt64) (response : List UInt8) (k : Nat) :
    (Pc.writeNext id response k).Bounded s := by
  unfold Pc.writeNext
  split <;> trivial

theorem bounded_giveUp (id : UInt64) : (Pc.giveUp id).Bounded s := ⟨trivial, rfl⟩

@[simp] theorem bounded_awake (pc : Pc) : pc.awake.Bounded s ↔ pc.Bounded s := by
  cases pc <;> rfl

end Bounded

/-- The queue holds the pending ids, and requests have passed the length check. -/
structure Base (S : Setup n) (c : Cfg n) : Prop where
  queue : ∃ q, Represents S.shm c.mem q ∧ q.map Request.id = c.pending
  short : ∀ t, (c.thr t).pc ≠ .idle → Short (c.thr t).req
  bounded : ∀ t, (c.thr t).pc.Bounded S.shm

namespace Base

theorem bounded_at (base : Base S c) {pc : Pc} (here : (c.thr t).pc = pc) : pc.Bounded S.shm :=
  here ▸ base.bounded t

theorem setThread (base : Base S c) {th : Thread} (short : th.pc ≠ .idle → Short th.req)
    (bounded : th.pc.Bounded S.shm) : Base S { c with thr := Function.update c.thr t th } where
  queue := base.queue
  short := fun t' => by
    by_cases same : t' = t
    · subst same
      simpa using short
    · simpa [same] using base.short t'
  bounded := fun t' => by
    by_cases same : t' = t
    · subst same
      simpa using bounded
    · simpa [same] using base.bounded t'

theorem goto (base : Base S c) {pc : Pc} (here : (c.thr t).pc ≠ .idle)
    (bounded : pc.Bounded S.shm) : Base S (c.goto t pc) :=
  base.setThread (fun _ => base.short t here) bounded

/-- A store outside the queue. -/
theorem write (base : Base S c) {w : Write} (foreign : w.Foreign) :
    Base S { c with mem := c.mem.write w } where
  queue := by
    obtain ⟨q, queue, ids⟩ := base.queue
    exact ⟨q, queue.foreign foreign, ids⟩
  short := base.short
  bounded := base.bounded

theorem store (base : Base S c) {l : Loc32} (v : UInt32) (foreign : (Write.w32 l v).Foreign) :
    Base S (c.store l v) := base.write foreign

theorem note (base : Base S c) (e : Mark n) : Base S (c.note e) :=
  ⟨base.queue, base.short, base.bounded⟩

theorem bump (base : Base S c) (i : UInt32) : Base S (c.bump i) := by
  have stored := base.store (l := .respSlotGeneration i) (c.gen i + 1)
    ⟨by simp, by simp, fun _ => id⟩
  exact ⟨stored.queue, stored.short, stored.bounded⟩

theorem setState (base : Base S c) (i v : UInt32) (h : Option (Fin n)) :
    Base S (c.setState i v h) := by
  have stored := base.store (l := .respSlotState i) v ⟨by simp, by simp, fun _ => id⟩
  exact ⟨stored.queue, stored.short, stored.bounded⟩

/-- `futexWake` keeps the base and wakes sleepers only. -/
theorem futexWake (base : Base S c) {l : Loc32} {k : Nat} {woken : List (Fin n)}
    (woke : c.futexWake S l k woken = some c') :
    Base S c' ∧ ((c.thr t).pc.asleepOn = none → (c'.thr t).pc = (c.thr t).pc) := by
  unfold Cfg.futexWake at woke
  split at woke
  · next valid =>
    injection woke with woke
    subst woke
    have asleep : ∀ t ∈ woken, (c.thr t).pc.asleepOn = some l := fun t member => by
      have found := valid.2.1 t member
      simp only [Cfg.sleepers, List.mem_filter] at found
      exact (of_decide_eq_true found.2).1
    refine ⟨⟨base.queue, fun t busy => ?_, fun t => ?_⟩, fun awake => ?_⟩
    · dsimp only at busy ⊢
      split
      · next member =>
        refine base.short t fun idle => ?_
        have := asleep t member
        rw [idle] at this
        cases this
      · next other =>
        rw [if_neg other] at busy
        exact base.short t busy
    · dsimp only
      split
      · exact (bounded_awake _).mpr (base.bounded t)
      · exact base.bounded t
    · dsimp only
      split
      · next member =>
        rw [asleep t member] at awake
        cases awake
      · rfl
  · cases woke

end Base

end ReqRep
