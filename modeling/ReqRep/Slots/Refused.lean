import ReqRep.Slots.Complete
import ReqRep.Slots.Whole

/-!
# A refused send leaves no trace

Whole operations, one after the other, keep every FREE slot without an owner. So
a `trySend` that fails gives its slot back as it found it, and everything it
stored before the failure is a counter, a futex word or a generation.
-/

namespace ReqRep

open Exec

variable {s : Shm} {m m' : Mem} {mypid : UInt32} {pidAlive : UInt32 → Bool}
  {ws : List Write}

/-! ## FREE slots have no owner -/

/-- A FREE slot has no owner. -/
def FreeUnowned (m : Mem) : Prop :=
  ∀ i, m.u32 (.respSlotState i) = layoutRespFree → m.u32 (.respSlotOwnerPid i) = 0

theorem FreeUnowned.congr (unowned : FreeUnowned m)
    (state : ∀ i, m'.u32 (.respSlotState i) = m.u32 (.respSlotState i))
    (owner : ∀ i, m'.u32 (.respSlotOwnerPid i) = m.u32 (.respSlotOwnerPid i)) :
    FreeUnowned m' := by
  intro i free
  rw [state] at free
  rw [owner]
  exact unowned i free

/-- Stores of the queue touch no slot. -/
theorem FreeUnowned.ofQueue (unowned : FreeUnowned m) (queue : ∀ w ∈ ws, w.OfQueue) :
    FreeUnowned (m.writeAll ws) := by
  refine unowned.congr (fun i => ?_) fun i => ?_
  · refine Mem.writeAll_u32_of_not_mem (fun v member => ?_) m
    simpa [Write.OfQueue, SlotField] using queue _ member
  · refine Mem.writeAll_u32_of_not_mem (fun v member => ?_) m
    simpa [Write.OfQueue, SlotField] using queue _ member

theorem FreeUnowned.take {slot : UInt32} (unowned : FreeUnowned m)
    (effect : TakeEffect m mypid slot m') : FreeUnowned m' := by
  intro i free
  by_cases same : i = slot
  · subst same
    rw [effect.state] at free
    exact absurd free (by decide)
  · have kept := effect.others same
    rw [kept.state] at free
    rw [kept.owner]
    exact unowned i free

theorem FreeUnowned.acquired {r : Option (UInt32 × UInt32)} (unowned : FreeUnowned m)
    (acquired : Acquired s m mypid pidAlive r ws) : FreeUnowned (m.writeAll ws) := by
  cases acquired with
  | free bound free => exact unowned.take (acquireFree_effect s m mypid _)
  | stale bound stale => exact unowned.take (acquireStale_effect m mypid _)
  | none => exact unowned

theorem FreeUnowned.release (unowned : FreeUnowned m) (m₀ : Mem) (slot : UInt32) :
    FreeUnowned (m.writeAll (releaseSlotWrites m₀ slot)) := by
  intro i free
  by_cases same : i = slot
  · simp [releaseSlotWrites, same]
  · simp [releaseSlotWrites, same] at free ⊢
    exact unowned i free

theorem FreeUnowned.cancel (unowned : FreeUnowned m) (slot : UInt32) :
    FreeUnowned (m.writeAll (cancelWrites m slot)) := by
  intro i free
  by_cases same : i = slot
  · simp [cancelWrites, same]
  · simp [cancelWrites, same] at free ⊢
    exact unowned i free

theorem FreeUnowned.replied {id : UInt64} {response : List UInt8}
    {r : Except ReqRepError Unit} (unowned : FreeUnowned m)
    (replied : Replied s m id response r ws) : FreeUnowned (m.writeAll ws) := by
  cases replied with
  | refused e => exact unowned
  | replied fits acquired gen =>
    intro i free
    by_cases same : i = idSlot id
    · simp [replyWrites, Mem.writeAll_append, same, layoutRespReady, layoutRespFree] at free
    · simp [replyWrites, Mem.writeAll_append, same] at free ⊢
      exact unowned i free

/-- The stores between locking and unlocking, and the lock itself. -/
theorem FreeUnowned.locked (unowned : FreeUnowned m) (queue : ∀ w ∈ ws, w.OfQueue)
    (mypid : UInt32) : FreeUnowned (m.writeAll (lockedWrites mypid ws)) := by
  have lock : ∀ {m : Mem} (v : UInt32), FreeUnowned m → FreeUnowned (m.set32 .hdrMutex v) :=
    fun v unowned => unowned.congr (by simp) (by simp)
  rw [lockedWrites, Mem.writeAll_append, Mem.writeAll_cons]
  exact lock 0 ((lock _ unowned).ofQueue queue)

theorem FreeUnowned.tried {data : List UInt8} {r : TrySendResult} (unowned : FreeUnowned m)
    (tried : Tried s m mypid pidAlive data r ws) : FreeUnowned (m.writeAll ws) := by
  cases tried with
  | tooLong long => exact unowned
  | noSlots => exact unowned
  | sent short acquired outcome =>
    have sent := (unowned.acquired acquired).locked (sent_ofQueue outcome) mypid
    rw [Mem.writeAll_append, Mem.writeAll_append]
    exact sent.congr (by simp) (by simp)
  | refused short acquired outcome =>
    have sent := (unowned.acquired acquired).locked (sent_ofQueue outcome) mypid
    rw [Mem.writeAll_append, Mem.writeAll_append]
    exact sent.release _ _

/-- Whole operations leave no FREE slot with an owner. -/
theorem FreeUnowned.runOp {op : SlotOp} {w w' : World} {q : List Request}
    (unowned : FreeUnowned w.mem) (queue : Represents s w.mem q)
    (unlocked : w.mem.u32 .hdrMutex = 0) (ran : runOp s op w = some ((), w')) :
    FreeUnowned w'.mem := by
  cases op with
  | trySend mypid pidAlive data =>
    obtain ⟨r, ws, run, tried⟩ := trySend_run mypid pidAlive data queue unlocked
    simp only [ReqRep.runOp, bind_apply, run, Option.bind_some, pure_apply] at ran
    cases ran
    exact unowned.tried tried
  | recvLocked =>
    cases q with
    | nil =>
      simp only [ReqRep.runOp, bind_apply, recv_run_nil queue, Option.bind_some, pure_apply] at ran
      cases ran
      exact unowned.congr (by simp) (by simp)
    | cons r q =>
      simp only [ReqRep.runOp, bind_apply, recv_run_cons queue, Option.bind_some, pure_apply] at ran
      cases ran
      exact unowned.ofQueue (recv_ofQueue s _)
  | writeResponse id response =>
    obtain ⟨r, ws, run, replied⟩ := writeResponse_run s id response w
    simp only [ReqRep.runOp, bind_apply, run, Option.bind_some, pure_apply] at ran
    cases ran
    exact unowned.replied replied
  | pollResponse id =>
    obtain ⟨r, ws, run, polled⟩ := pollResponse_run s id w
    simp only [ReqRep.runOp, bind_apply, run, Option.bind_some, pure_apply] at ran
    cases ran
    cases polled with
    | stale gen => exact unowned
    | notReady => exact unowned
    | read gen ready bytes => exact unowned.release _ _
  | cancelRequest id =>
    rcases cancelRequest_run s id w with run | ⟨-, -, run⟩ <;>
      rw [ReqRep.runOp, run] at ran <;> cases ran
    · exact unowned
    · exact unowned.cancel _
  | tryDrainResponse id =>
    rcases tryDrainResponse_run s id w with run | ⟨-, -, run⟩ <;>
      rw [ReqRep.runOp, run] at ran <;> cases ran
    · exact unowned
    · exact unowned.release _ _

/-- The invariants of whole operations, together. -/
theorem runOps_unowned (ok : s.QueueOk) (ops : List SlotOp) {w : World} {q : List Request}
    (queue : Represents s w.mem q) (unlocked : w.mem.u32 .hdrMutex = 0)
    (unowned : FreeUnowned w.mem) :
    ∃ w' q', runOps s ops w = some ((), w') ∧ Represents s w'.mem q' ∧
      w'.mem.u32 .hdrMutex = 0 ∧ FreeUnowned w'.mem := by
  induction ops generalizing w q with
  | nil => exact ⟨w, q, rfl, queue, unlocked, unowned⟩
  | cons op ops ih =>
    obtain ⟨ws, run, whole⟩ := runOp_whole ok op queue unlocked
    obtain ⟨q', queue'⟩ := whole.queue q queue
    obtain ⟨w', q'', runs, after⟩ := ih (w := w.extend ws) queue' (whole.mutex unlocked)
      (unowned.runOp queue unlocked run)
    exact ⟨w', q'', by simp only [runOps, bind_apply, run, Option.bind_some, runs], after⟩

/-! ## A failed send -/

/-- `trySend` returns an error, or no id. -/
def TrySendResult.Failed : TrySendResult → Prop
  | .error _ => True
  | .ok (id, _) => id = 0

/-- Nothing differs but the generation of one slot, `resp_hint`, `slot_futex` and
the statistic of full sends. -/
structure NoTrace (m m' : Mem) : Prop where
  words : ∃ slot, ∀ l, l ≠ .respSlotGeneration slot → l ≠ .hdrRespHint →
    l ≠ .hdrSlotFutex → m'.u32 l = m.u32 l
  counters : ∀ l, l ≠ .hdrStatSendFull → m'.u64 l = m.u64 l
  bytes : m'.u8 = m.u8

/-- Every held slot has a living owner. -/
def HeldAlive (s : Shm) (m : Mem) (pidAlive : UInt32 → Bool) : Prop :=
  ∀ i < s.respSlots,
    m.u32 (.respSlotState i) = layoutRespAcquired ∨ m.u32 (.respSlotState i) = layoutRespReady →
      pidAlive (m.u32 (.respSlotOwnerPid i)) = true

/-- A send that is refused makes at most one store, to a statistic. -/
theorem Sent.refused_writes {r : Request} (outcome : Sent s m r false ws) :
    ws = [] ∨ ∃ v, ws = [.w64 .hdrStatSendFull v] := by
  cases outcome with
  | queueFull full => exact .inr ⟨_, rfl⟩
  | refused space refused =>
    cases refused with
    | tooLong long => exact .inl rfl
    | full room refused => exact .inr ⟨_, rfl⟩

theorem NoTrace.refl (m : Mem) : NoTrace m m := ⟨⟨0, fun _ _ _ _ => rfl⟩, fun _ _ => rfl, rfl⟩

/-- Taking a FREE slot and giving it back. -/
theorem NoTrace.refused {slot : UInt32} {sends : List Write}
    (free : m.u32 (.respSlotState slot) = layoutRespFree)
    (unowned : m.u32 (.respSlotOwnerPid slot) = 0) (unlocked : m.u32 .hdrMutex = 0)
    (few : sends = [] ∨ ∃ v, sends = [.w64 .hdrStatSendFull v]) (s : Shm) (mypid : UInt32)
    (m₀ : Mem) :
    NoTrace m (m.writeAll (acquireFreeWrites s m mypid slot ++ lockedWrites mypid sends ++
      releaseSlotWrites m₀ slot)) := by
  have effect := acquireFree_effect s m mypid slot
  have frame := @acquireFree_words slot
  rw [Mem.writeAll_append, Mem.writeAll_append]
  have words : ∀ l, l ≠ .respSlotState slot → l ≠ .respSlotOwnerPid slot →
      l ≠ .respSlotGeneration slot → l ≠ .hdrRespHint →
      (m.writeAll (acquireFreeWrites s m mypid slot)).u32 l = m.u32 l :=
    fun l state owner gen hint => frame state owner gen hint s m mypid
  have counters := effect.counters
  have bytes := effect.bytes
  generalize m.writeAll (acquireFreeWrites s m mypid slot) = m₁ at words counters bytes ⊢
  have sent : ∀ m : Mem, (m.writeAll sends).u32 = m.u32 ∧ (m.writeAll sends).u8 = m.u8 ∧
      ∀ l, l ≠ .hdrStatSendFull → (m.writeAll sends).u64 l = m.u64 l := by
    intro m
    rcases few with rfl | ⟨v, rfl⟩
    · exact ⟨rfl, rfl, fun _ _ => rfl⟩
    · exact ⟨rfl, rfl, fun l other => by simp [other]⟩
  refine ⟨⟨slot, fun l gen hint futex => ?_⟩, fun l other => ?_, ?_⟩
  · by_cases state : l = .respSlotState slot
    · simp [releaseSlotWrites, state, free]
    by_cases owner : l = .respSlotOwnerPid slot
    · simp [releaseSlotWrites, owner, unowned]
    by_cases mutex : l = .hdrMutex
    · simp [releaseSlotWrites, lockedWrites, Mem.writeAll_append, mutex, unlocked]
    · simp [releaseSlotWrites, lockedWrites, Mem.writeAll_append, state, owner, futex, mutex,
        (sent _).1, words l state owner gen hint]
  · simp [releaseSlotWrites, lockedWrites, Mem.writeAll_append, (sent _).2.2 l other, counters]
  · simp [releaseSlotWrites, lockedWrites, Mem.writeAll_append, (sent _).2.1, bytes]

/-- A `trySend` that fails leaves no trace, whichever way it fails. -/
theorem Tried.noTrace {data : List UInt8} {r : TrySendResult} (unowned : FreeUnowned m)
    (unlocked : m.u32 .hdrMutex = 0) (held : HeldAlive s m pidAlive)
    (tried : Tried s m mypid pidAlive data r ws) (failed : r.Failed) :
    NoTrace m (m.writeAll ws) := by
  cases tried with
  | tooLong long => exact .refl m
  | noSlots => exact .refl m
  | sent short acquired outcome =>
    -- a generation is never 0, nor is an id with it
    refine absurd failed (packId_ne_zero _ ?_)
    cases acquired <;> exact nextGen_ne_zero _
  | refused short acquired outcome =>
    cases acquired with
    | free bound free =>
      exact .refused free (unowned _ free) unlocked outcome.refused_writes s mypid _
    | stale bound stale =>
      have alive := held _ bound stale.1
      rw [stale.2.2] at alive
      cases alive

/-- A new file: an empty queue, a free mutex, and FREE slots without an owner. -/
structure FreshFile (m : Mem) : Prop where
  queue : FreshQueue m
  mutex : m.u32 .hdrMutex = 0
  state : ∀ i, m.u32 (.respSlotState i) = layoutRespFree
  owner : ∀ i, m.u32 (.respSlotOwnerPid i) = 0

/-- A failed `trySend` is a no-op. After any sequence of whole operations on a new
file, where every held slot has a living owner, a `trySend` of any data ends; if
it does not succeed, the queue, the arena with its bytes and the response slots
are exactly as before, but for the generation of the slot it tried. -/
theorem failed_trySend_leaves_no_trace (ok : s.QueueOk) (fresh : FreshFile m)
    (ops : List SlotOp) :
    ∃ w, runOps s ops ⟨m, []⟩ = some ((), w) ∧
      ∀ mypid pidAlive data, HeldAlive s w.mem pidAlive →
        ∃ r w', trySend s mypid pidAlive data w = some (r, w') ∧
          (r.Failed → NoTrace w.mem w'.mem) := by
  have unowned : FreeUnowned m := fun i _ => fresh.owner i
  obtain ⟨w, q, run, queue, unlocked, unowned⟩ := runOps_unowned ok ops (w := ⟨m, []⟩)
    fresh.queue.represents fresh.mutex unowned
  refine ⟨w, run, fun mypid pidAlive data held => ?_⟩
  obtain ⟨r, ws, ran, tried⟩ := trySend_run mypid pidAlive data queue unlocked
  exact ⟨r, _, ran, tried.noTrace unowned unlocked held⟩

/-- The only slot is taken when the second send is tried. -/
theorem failed_trySend_leaves_no_trace_tiny :
    ∃ w w', runOps tinyShm [.trySend 7 (fun _ => true) [1]] ⟨freshMem 0, []⟩ = some ((), w) ∧
      trySend tinyShm 8 (fun _ => true) [2] w = some (.ok (0, true), w') ∧
      NoTrace w.mem w'.mem := by
  obtain ⟨w, run, sends⟩ := failed_trySend_leaves_no_trace (s := tinyShm) (m := freshMem 0)
    (by decide) ⟨freshMem_fresh 0, rfl, fun _ => rfl, fun _ => rfl⟩
    [.trySend 7 (fun _ => true) [1]]
  obtain ⟨r, w', tried, leaves⟩ := sends 8 (fun _ => true) [2] fun _ _ _ => rfl
  have ends : ((runOps tinyShm [.trySend 7 (fun _ => true) [1]] ⟨freshMem 0, []⟩).bind fun r =>
      (trySend tinyShm 8 (fun _ => true) [2] r.2).map fun r => r.1.toOption) =
      some (some (0, true)) := by
    decide +kernel
  rw [run, Option.bind_some, tried, Option.map_some] at ends
  cases r with
  | error e => cases ends
  | ok result =>
    obtain rfl : result = (0, true) := Option.some.inj (Option.some.inj ends)
    exact ⟨w, w', run, tried, leaves rfl⟩

end ReqRep
