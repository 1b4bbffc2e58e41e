import ReqRep.Queue.Fifo
import ReqRep.Slots.Spec

/-!
# Whole operations and the slots

What a whole operation can do to a slot: change nothing, free it, take it with a
new generation, or fill an ACQUIRED one. Every run of whole operations ends, and
composes these.
-/

namespace ReqRep

open Exec

/-- The stores to the generation of slot `i`. -/
def isBump (i : UInt32) : Write → Bool
  | .w32 (.respSlotGeneration j) _ => j = i
  | _ => false

/-- How many generation increments of slot `i` are among these stores. -/
def bumpsOn (i : UInt32) (ws : List Write) : Nat := ws.countP (isBump i)

@[simp] theorem bumpsOn_append (i : UInt32) (ws ws' : List Write) :
    bumpsOn i (ws ++ ws') = bumpsOn i ws + bumpsOn i ws' := List.countP_append

/-- The locations that make up the response of slot `i`. -/
def Write.OnSlot (i : UInt32) : Write → Prop
  | .w32 l _ => l = .respSlotState i ∨ l = .respSlotGeneration i ∨ l = .respSlotLen i
  | .w64 _ _ => False
  | .w8 l _ => ∃ k, l = .respSlotData i k

/-- The response in slot `i` is the same in both memories. -/
structure SameResponse (i : UInt32) (m m' : Mem) : Prop where
  len : m'.u32 (.respSlotLen i) = m.u32 (.respSlotLen i)
  data : ∀ k, m'.u8 (.respSlotData i k) = m.u8 (.respSlotData i k)

/-- What any operation may do to slot `i`. -/
structure Tame (i : UInt32) (m : Mem) (ws : List Write) : Prop where
  gen : (m.writeAll ws).u32 (.respSlotGeneration i) =
    m.u32 (.respSlotGeneration i) + UInt32.ofNat (bumpsOn i ws)
  free : bumpsOn i ws = 0 → m.u32 (.respSlotState i) = layoutRespFree →
    (m.writeAll ws).u32 (.respSlotState i) = layoutRespFree
  ready : bumpsOn i ws = 0 → m.u32 (.respSlotState i) = layoutRespReady →
    (m.writeAll ws).u32 (.respSlotState i) = layoutRespFree ∨
      ((m.writeAll ws).u32 (.respSlotState i) = layoutRespReady ∧
        SameResponse i m (m.writeAll ws))

variable {i : UInt32} {m : Mem} {ws ws' : List Write}

theorem Tame.append (first : Tame i m ws) (second : Tame i (m.writeAll ws) ws') :
    Tame i m (ws ++ ws') where
  gen := by
    rw [Mem.writeAll_append, second.gen, first.gen, bumpsOn_append, UInt32.ofNat_add,
      UInt32.add_assoc]
  free := by
    intro none free
    rw [bumpsOn_append] at none
    rw [Mem.writeAll_append]
    exact second.free (by omega) (first.free (by omega) free)
  ready := by
    intro none ready
    rw [bumpsOn_append] at none
    rw [Mem.writeAll_append]
    rcases first.ready (by omega) ready with freed | ⟨kept, same⟩
    · exact .inl (second.free (by omega) freed)
    · rcases second.ready (by omega) kept with freed | ⟨kept, same'⟩
      · exact .inl freed
      · exact .inr ⟨kept, same'.len.trans same.len, fun k => (same'.data k).trans (same.data k)⟩

/-- Stores elsewhere leave the slot alone. -/
theorem Tame.elsewhere (elsewhere : ∀ w ∈ ws, ¬ w.OnSlot i) : Tame i m ws := by
  have word : ∀ l, (∀ v, Write.OnSlot i (.w32 l v)) → (m.writeAll ws).u32 l = m.u32 l :=
    fun l on => Mem.writeAll_u32_of_not_mem (fun v member => elsewhere _ member (on v)) m
  have state := word (.respSlotState i) fun _ => .inl rfl
  have gen := word (.respSlotGeneration i) fun _ => .inr (.inl rfl)
  have len := word (.respSlotLen i) fun _ => .inr (.inr rfl)
  have data : ∀ k, (m.writeAll ws).u8 (.respSlotData i k) = m.u8 (.respSlotData i k) := fun k =>
    Mem.writeAll_u8_of_not_mem (fun v member => elsewhere _ member ⟨k, rfl⟩) m
  have none : bumpsOn i ws = 0 := by
    refine List.countP_eq_zero.mpr fun w member bump => elsewhere w member ?_
    cases w with
    | w32 l v => cases l <;> simp_all [isBump, Write.OnSlot]
    | w64 l v => cases bump
    | w8 l v => cases bump
  exact ⟨by rw [gen, none]; simp, fun _ free => state.trans free,
    fun _ ready => .inr ⟨state.trans ready, len, data⟩⟩

/-! ## The blocks of stores -/

/-- An acquisition increments the generation once, or twice if it comes to 0. -/
theorem takeWrites_bumps (mypid slot g : UInt32) :
    1 ≤ bumpsOn slot (takeWrites mypid slot g) ∧
      ∀ m : Mem, m.u32 (.respSlotGeneration slot) = g →
        (m.writeAll (takeWrites mypid slot g)).u32 (.respSlotGeneration slot) =
          g + UInt32.ofNat (bumpsOn slot (takeWrites mypid slot g)) := by
  unfold takeWrites
  split
  · refine ⟨by simp [bumpsOn, isBump], fun m here => ?_⟩
    simp [bumpsOn, isBump, UInt32.add_assoc]
  · refine ⟨by simp [bumpsOn, isBump], fun m here => ?_⟩
    simp [bumpsOn, isBump]

private theorem mem_takeWrites {mypid slot g : UInt32} {w : Write}
    (member : w ∈ takeWrites mypid slot g) :
    (∃ v, w = .w32 (.respSlotOwnerPid slot) v) ∨ ∃ v, w = .w32 (.respSlotGeneration slot) v := by
  unfold takeWrites at member
  rcases List.mem_cons.mp member with rfl | member
  · exact .inl ⟨_, rfl⟩
  rcases List.mem_cons.mp member with rfl | member
  · exact .inr ⟨_, rfl⟩
  split at member
  · obtain rfl := List.mem_singleton.mp member
    exact .inr ⟨_, rfl⟩
  · cases member

/-- Taking a slot from any state increments its generation. -/
private theorem tame_take (i mypid slot : UInt32) (m : Mem) :
    Tame i m (.w32 (.respSlotState slot) layoutRespAcquired ::
      takeWrites mypid slot (m.u32 (.respSlotGeneration slot))) := by
  by_cases here : i = slot
  · subst here
    obtain ⟨some, gen⟩ := takeWrites_bumps mypid i (m.u32 (.respSlotGeneration i))
    have same : bumpsOn i (.w32 (.respSlotState i) layoutRespAcquired ::
        takeWrites mypid i (m.u32 (.respSlotGeneration i))) =
        bumpsOn i (takeWrites mypid i (m.u32 (.respSlotGeneration i))) := by
      simp [bumpsOn, isBump]
    refine ⟨?_, fun none => by omega, fun none => by omega⟩
    rw [same, Mem.writeAll_cons]
    exact gen _ (by simp)
  · refine .elsewhere fun w member on => here ?_
    rcases List.mem_cons.mp member with rfl | member
    · simpa [Write.OnSlot, eq_comm] using on
    · rcases mem_takeWrites member with ⟨v, rfl⟩ | ⟨v, rfl⟩
      · simp [Write.OnSlot] at on
      · simpa [Write.OnSlot, eq_comm] using on

private theorem tame_free (i slot : UInt32) (m : Mem) :
    Tame i m [.w32 (.respSlotOwnerPid slot) 0, .w32 (.respSlotState slot) layoutRespFree] := by
  have none : bumpsOn i [.w32 (.respSlotOwnerPid slot) 0,
      .w32 (.respSlotState slot) layoutRespFree] = 0 := by
    simp [bumpsOn, isBump]
  by_cases here : i = slot
  · subst here
    exact ⟨by rw [none]; simp, fun _ _ => by simp, fun _ _ => .inl (by simp)⟩
  · refine .elsewhere fun w member on => here ?_
    simp only [List.mem_cons, List.not_mem_nil, or_false] at member
    rcases member with rfl | rfl
    · simp [Write.OnSlot] at on
    · simpa [Write.OnSlot, eq_comm] using on

private theorem tame_reply (i slot : UInt32) (response : List UInt8)
    (acquired : m.u32 (.respSlotState slot) = layoutRespAcquired) :
    Tame i m (replyWrites m slot response) := by
  by_cases here : i = slot
  · subst here
    have none : bumpsOn i (replyWrites m i response) = 0 := by
      refine List.countP_eq_zero.mpr fun w member bump => ?_
      rcases List.mem_append.mp member with copied | last
      · obtain ⟨_, _, _, _, rfl⟩ := mem_copyWrites copied
        cases bump
      · simp only [List.mem_cons, List.not_mem_nil, or_false] at last
        rcases last with rfl | rfl | rfl | rfl <;> cases bump
    refine ⟨?_, fun _ free => ?_, fun _ ready => ?_⟩
    · rw [none]
      simp [replyWrites, Mem.writeAll_append]
    · rw [acquired] at free
      exact absurd free (by decide)
    · rw [acquired] at ready
      exact absurd ready (by decide)
  · refine .elsewhere fun w member on => here ?_
    rcases List.mem_append.mp member with copied | last
    · obtain ⟨_, _, _, _, rfl⟩ := mem_copyWrites copied
      obtain ⟨_, same⟩ := on
      injection same with same
      exact same.symm
    · simp only [List.mem_cons, List.not_mem_nil, or_false] at last
      rcases last with rfl | rfl | rfl | rfl <;> simp_all [Write.OnSlot, eq_comm]

private theorem tame_cancel (i slot : UInt32) (m : Mem) : Tame i m (cancelWrites m slot) := by
  by_cases here : i = slot
  · subst here
    have one : bumpsOn i (cancelWrites m i) = 1 := by
      simp [bumpsOn, cancelWrites, isBump]
    exact ⟨by rw [one]; simp [cancelWrites], fun none => by omega, fun none => by omega⟩
  · refine .elsewhere fun w member on => here ?_
    simp only [cancelWrites, List.mem_cons, List.not_mem_nil, or_false] at member
    rcases member with rfl | rfl | rfl | rfl <;> simp_all [Write.OnSlot, eq_comm]

/-- A store outside the queue and the mutex. -/
def Write.Apart (w : Write) : Prop := w.Foreign ∧ ∀ v, w ≠ .w32 .hdrMutex v

/-! ## Whole operations -/

/-- What a whole operation keeps: it is tame on every slot, the queue stays a
queue, and the mutex is free again. -/
structure Whole (s : Shm) (m : Mem) (ws : List Write) : Prop where
  tame : ∀ i, Tame i m ws
  queue : ∀ q, Represents s m q → ∃ q', Represents s (m.writeAll ws) q'
  mutex : m.u32 .hdrMutex = 0 → (m.writeAll ws).u32 .hdrMutex = 0

variable {s : Shm}

theorem Whole.nil (m : Mem) : Whole s m [] :=
  ⟨fun _ => .elsewhere nofun, fun q queue => ⟨q, queue⟩, id⟩

theorem Whole.append (first : Whole s m ws) (second : Whole s (m.writeAll ws) ws') :
    Whole s m (ws ++ ws') where
  tame := fun i => (first.tame i).append (second.tame i)
  queue := fun q queue => by
    obtain ⟨q', queue'⟩ := first.queue q queue
    rw [Mem.writeAll_append]
    exact second.queue q' queue'
  mutex := fun unlocked => by
    rw [Mem.writeAll_append]
    exact second.mutex (first.mutex unlocked)

/-- Stores outside the queue and the mutex keep them. -/
theorem Whole.apart (tame : ∀ i, Tame i m ws) (apart : ∀ w ∈ ws, w.Apart) : Whole s m ws where
  tame := tame
  queue := fun q queue => by
    have keeps : Along (fun m' _ => Represents s m' q) m ws :=
      .of_keeps queue fun w member m' queue' => queue'.foreign (apart w member).1
    exact ⟨q, keeps.final⟩
  mutex := fun unlocked =>
    (Mem.writeAll_u32_of_not_mem (fun v member => (apart _ member).2 v rfl) m).trans unlocked

private theorem whole_take (mypid slot : UInt32) (m : Mem) :
    Whole s m (.w32 (.respSlotState slot) layoutRespAcquired ::
      takeWrites mypid slot (m.u32 (.respSlotGeneration slot))) := by
  refine .apart (fun i => tame_take i mypid slot m) fun w member => ?_
  rcases List.mem_cons.mp member with rfl | member
  · simp [Write.Apart, Write.Foreign, SlotField]
  · rcases mem_takeWrites member with ⟨v, rfl⟩ | ⟨v, rfl⟩ <;>
      simp [Write.Apart, Write.Foreign, SlotField]

private theorem whole_free (slot : UInt32) (m : Mem) :
    Whole s m [.w32 (.respSlotOwnerPid slot) 0, .w32 (.respSlotState slot) layoutRespFree] := by
  refine .apart (fun i => tame_free i slot m) fun w member => ?_
  simp only [List.mem_cons, List.not_mem_nil, or_false] at member
  rcases member with rfl | rfl <;> simp [Write.Apart, Write.Foreign, SlotField]

/-- A store to a futex word or a statistic. -/
private theorem whole_word {l : Loc32} (v : UInt32)
    (word : l = .hdrRespHint ∨ l = .hdrStatRecoveries ∨ l = .hdrSlotFutex ∨ l = .hdrRecvFutex)
    (m : Mem) : Whole s m [.w32 l v] := by
  refine .apart (fun i => .elsewhere fun w member => ?_) fun w member => ?_
  · obtain rfl := List.mem_singleton.mp member
    rcases word with rfl | rfl | rfl | rfl <;> simp [Write.OnSlot]
  · obtain rfl := List.mem_singleton.mp member
    rcases word with rfl | rfl | rfl | rfl <;> simp [Write.Apart, Write.Foreign, SlotField]

private theorem whole_release (slot : UInt32) (m : Mem) :
    Whole s m (releaseSlotWrites m slot) :=
  (whole_free slot m).append (whole_word _ (by simp) _)

private theorem whole_acquired {mypid : UInt32} {pidAlive : UInt32 → Bool}
    {r : Option (UInt32 × UInt32)} (acquired : Acquired s m mypid pidAlive r ws) :
    Whole s m ws := by
  cases acquired with
  | none => exact .nil m
  | @free slot bound free =>
    exact (whole_take mypid slot m).append (whole_word _ (by simp) _)
  | @stale slot bound stale =>
    have first := (whole_free (s := s) slot m).append
      (whole_word (l := .hdrStatRecoveries) (m.u32 .hdrStatRecoveries + 1) (by simp) _)
    have second := first.append (whole_take mypid slot _)
    simpa [acquireStaleWrites] using second

private theorem whole_replied {id : UInt64} {response : List UInt8}
    {r : Except ReqRepError Unit} (replied : Replied s m id response r ws) : Whole s m ws := by
  cases replied with
  | refused e => exact .nil m
  | replied fits acquired gen =>
    refine .apart (fun i => tame_reply i _ response acquired) fun w member => ?_
    rcases List.mem_append.mp member with copied | last
    · obtain ⟨_, _, _, _, rfl⟩ := mem_copyWrites copied
      simp [Write.Apart, Write.Foreign]
    · simp only [List.mem_cons, List.not_mem_nil, or_false] at last
      rcases last with rfl | rfl | rfl | rfl <;> simp [Write.Apart, Write.Foreign, SlotField]

private theorem whole_cancel (slot : UInt32) (m : Mem) : Whole s m (cancelWrites m slot) := by
  refine .apart (fun i => tame_cancel i slot m) fun w member => ?_
  simp only [cancelWrites, List.mem_cons, List.not_mem_nil, or_false] at member
  rcases member with rfl | rfl | rfl | rfl <;> simp [Write.Apart, Write.Foreign, SlotField]

/-- The queue's stores touch no slot and not the mutex. -/
def Write.OfQueue : Write → Prop
  | .w32 l _ => l = .hdrArenaWpos ∨ l = .hdrArenaUsed ∨ l = .hdrStatRecvEmpty ∨
      ∃ idx, SlotField idx l
  | .w64 _ _ => True
  | .w8 l _ => ∃ k, l = .arena k

private theorem Write.OfQueue.not_on {w : Write} (queue : w.OfQueue) : ¬ w.OnSlot i := by
  cases w with
  | w32 l v =>
    rintro (rfl | rfl | rfl) <;> simp [Write.OfQueue, SlotField] at queue
  | w64 l v => exact id
  | w8 l v =>
    rintro ⟨k, rfl⟩
    simp [Write.OfQueue] at queue

private theorem Write.OfQueue.not_mutex {w : Write} (queue : w.OfQueue) (v : UInt32) :
    w ≠ .w32 .hdrMutex v := by
  rintro rfl
  simp [Write.OfQueue, SlotField] at queue

theorem sent_ofQueue {r : Request} {sent : Bool} (outcome : Sent s m r sent ws) :
    ∀ w ∈ ws, w.OfQueue := by
  intro w member
  cases outcome with
  | queueFull full =>
    obtain rfl := List.mem_singleton.mp member
    trivial
  | refused space refused =>
    cases refused with
    | tooLong long => cases member
    | full room refused =>
      obtain rfl := List.mem_singleton.mp member
      trivial
  | sent space placed =>
    simp only [sendWrites, arenaWrites, fieldWrites, List.mem_append, List.mem_cons,
      List.not_mem_nil, or_false] at member
    rcases member with (((reset | copied) | rfl | rfl) | fields) | rfl | rfl
    · rcases placed.reset_eq with ⟨rfl, -⟩ | ⟨rfl, -, -⟩
      · cases reset
      · simp only [List.mem_cons, List.not_mem_nil, or_false] at reset
        rcases reset with rfl | rfl <;> simp [Write.OfQueue]
    · obtain ⟨_, _, _, _, rfl⟩ := mem_copyWrites copied
      exact ⟨_, rfl⟩
    · exact .inl rfl
    · exact .inr (.inl rfl)
    · rcases fields with rfl | rfl | rfl | rfl | rfl <;> exact .inr (.inr (.inr ⟨_, rfl⟩))
    · trivial
    · trivial

theorem recv_ofQueue (s : Shm) (m : Mem) : ∀ w ∈ recvWrites s m, w.OfQueue := by
  intro w member
  unfold recvWrites releaseWrites at member
  dsimp only at member
  generalize (if m.u32 .hdrArenaUsed ≥ _ then _ else _ : UInt32) = used at member
  rcases List.mem_append.mp member with released | last
  · rcases List.mem_cons.mp released with rfl | reset
    · exact .inr (.inl rfl)
    · split at reset
      · obtain rfl := List.mem_singleton.mp reset
        exact .inl rfl
      · cases reset
  · obtain rfl := List.mem_singleton.mp last
    trivial

/-- A send between locking and unlocking. -/
private theorem whole_send (ok : s.QueueOk) (mypid : UInt32) {r : Request} (short : Short r.data)
    {sent : Bool} (outcome : Sent s (m.set32 .hdrMutex (mutexWord mypid)) r sent ws) :
    Whole s m (.w32 .hdrMutex (mutexWord mypid) :: ws ++ [.w32 .hdrMutex 0]) where
  tame := fun i => .elsewhere fun w member => by
    rcases List.mem_append.mp member with member | last
    · rcases List.mem_cons.mp member with rfl | member
      · simp [Write.OnSlot]
      · exact (sent_ofQueue outcome w member).not_on
    · obtain rfl := List.mem_singleton.mp last
      simp [Write.OnSlot]
  queue := fun q queue => by
    have locked := queue.foreign (w := .w32 .hdrMutex (mutexWord mypid))
      ⟨by decide, by decide, fun _ => id⟩
    have sent := send_represents ok locked short outcome
    have unlock : ∀ q', Represents s ((m.set32 .hdrMutex (mutexWord mypid)).writeAll ws) q' →
        Represents s (m.writeAll (.w32 .hdrMutex (mutexWord mypid) :: ws ++ [.w32 .hdrMutex 0]))
          q' := by
      intro q' queue'
      rw [Mem.writeAll_append, Mem.writeAll_cons]
      exact queue'.foreign (w := .w32 .hdrMutex 0) ⟨by decide, by decide, fun _ => id⟩
    rcases sent with ⟨-, queue'⟩ | ⟨-, -, queue'⟩
    · exact ⟨q, unlock _ queue'⟩
    · exact ⟨_, unlock _ queue'⟩
  mutex := fun _ => by
    rw [Mem.writeAll_append]
    simp

/-! ## Runs of whole operations -/

/-- A whole operation of some participant, run alone. `pidAlive` is what the
operating system answers during it. -/
inductive SlotOp where
  | trySend (mypid : UInt32) (pidAlive : UInt32 → Bool) (data : List UInt8)
  | recvLocked
  | writeResponse (id : UInt64) (response : List UInt8)
  | pollResponse (id : UInt64)
  | cancelRequest (id : UInt64)
  | tryDrainResponse (id : UInt64)

/-- One operation; its result is not looked at. -/
def runOp (s : Shm) : SlotOp → Exec Unit
  | .trySend mypid pidAlive data => do
    let _ ← trySend s mypid pidAlive data
  | .recvLocked => do
    let _ ← recvLocked s
  | .writeResponse id response => do
    let _ ← writeResponse s id response
  | .pollResponse id => do
    let _ ← pollResponse s id
  | .cancelRequest id => cancelRequest s id
  | .tryDrainResponse id => tryDrainResponse s id

/-- Some operations, one after another. -/
def runOps (s : Shm) : List SlotOp → Exec Unit
  | [] => return
  | op :: ops => do
    runOp s op
    runOps s ops

/-- The stores of a critical section. -/
def lockedWrites (mypid : UInt32) (ws : List Write) : List Write :=
  .w32 .hdrMutex (mutexWord mypid) :: ws ++ [.w32 .hdrMutex 0]

/-- The memory in which `sendLocked` runs after an acquisition. -/
def lockedMem (mypid : UInt32) (m : Mem) (ws : List Write) : Mem :=
  (m.writeAll ws).set32 .hdrMutex (mutexWord mypid)

/-- The result and the stores of `trySend`. -/
inductive Tried (s : Shm) (m : Mem) (mypid : UInt32) (pidAlive : UInt32 → Bool)
    (data : List UInt8) : TrySendResult → List Write → Prop where
  | tooLong (long : layoutStrLenMask.toNat < data.length) :
      Tried s m mypid pidAlive data (.error .errTooLong) []
  | noSlots : Tried s m mypid pidAlive data (.ok (0, true)) []
  | sent {slot gen : UInt32} {ws sends : List Write} (short : Short data)
      (acquired : Acquired s m mypid pidAlive (some (slot, gen)) ws)
      (outcome : Sent s (lockedMem mypid m ws) ⟨data, slot, gen⟩ true sends) :
      Tried s m mypid pidAlive data (.ok (packId gen slot, false))
        (ws ++ lockedWrites mypid sends ++ [.w32 .hdrRecvFutex
          ((m.writeAll (ws ++ lockedWrites mypid sends)).u32 .hdrRecvFutex + 1)])
  | refused {slot gen : UInt32} {ws sends : List Write} (short : Short data)
      (acquired : Acquired s m mypid pidAlive (some (slot, gen)) ws)
      (outcome : Sent s (lockedMem mypid m ws) ⟨data, slot, gen⟩ false sends) :
      Tried s m mypid pidAlive data (.ok (0, false))
        (ws ++ lockedWrites mypid sends ++
          releaseSlotWrites (m.writeAll (ws ++ lockedWrites mypid sends)) slot)

/-- `trySend` alone: what it returns and what it writes. -/
theorem trySend_run (mypid : UInt32) (pidAlive : UInt32 → Bool)
    (data : List UInt8) {w : World} {q : List Request} (queue : Represents s w.mem q)
    (unlocked : w.mem.u32 .hdrMutex = 0) :
    ∃ r ws, trySend s mypid pidAlive data w = some (r, w.extend ws) ∧
      Tried s w.mem mypid pidAlive data r ws := by
  unfold trySend
  simp only [ite_apply', pure_apply, bind_apply]
  split
  · next long => exact ⟨_, [], by rw [World.extend_nil], .tooLong long⟩
  next short =>
  have short : Short data := Nat.not_lt.mp short
  obtain ⟨taken, ws, run, acquired⟩ := acquireRespSlot_run s mypid pidAlive w
  have whole := whole_acquired acquired
  rw [run]
  simp only [Option.bind_some]
  cases taken with
  | none =>
    cases acquired
    exact ⟨_, [], rfl, .noSlots⟩
  | some taken =>
    obtain ⟨slot, gen⟩ := taken
    have bound : slot < s.respSlots := by
      cases acquired <;> assumption
    have unlocked := whole.mutex unlocked
    obtain ⟨q', queue'⟩ := whole.queue q queue
    have locked := queue'.foreign (w := .w32 .hdrMutex (mutexWord mypid))
      ⟨by decide, by decide, fun _ => id⟩
    obtain ⟨sent, sends, sendRun, outcome⟩ := sendLocked_run (r := ⟨data, slot, gen⟩) short bound
      ((w.extend ws).extend [.w32 .hdrMutex (mutexWord mypid)]) locked.wpos_bound
    have lock : mutexLock mypid (w.extend ws) =
        some ((), (w.extend ws).extend [.w32 .hdrMutex (mutexWord mypid)]) := by
      have free : (w.mem.writeAll ws).u32 .hdrMutex = 0 := unlocked
      simp [mutexLock, free]
    simp only [bind_apply, lock, Option.bind_some, sendRun, mutexUnlock, store32_apply,
      ite_apply', wakeConsumers, add32_apply, pure_apply, releaseRespSlot_run]
    have critical : (((w.extend ws).extend [.w32 .hdrMutex (mutexWord mypid)]).extend sends).extend
        [.w32 .hdrMutex 0] = w.extend (ws ++ lockedWrites mypid sends) := by
      simp [lockedWrites]
    rw [critical]
    cases sent with
    | true =>
      refine ⟨_, _, ?_, .sent short acquired outcome⟩
      rw [if_pos rfl, World.extend_extend, World.extend_mem]
    | false =>
      refine ⟨_, _, ?_, .refused short acquired outcome⟩
      rw [if_neg Bool.false_ne_true, World.extend_extend, World.extend_mem]

private theorem whole_tried (ok : s.QueueOk) {mypid : UInt32} {pidAlive : UInt32 → Bool}
    {data : List UInt8} {r : TrySendResult} (tried : Tried s m mypid pidAlive data r ws) :
    Whole s m ws := by
  cases tried with
  | tooLong long => exact .nil m
  | noSlots => exact .nil m
  | sent short acquired outcome =>
    exact ((whole_acquired acquired).append (whole_send ok mypid short outcome)).append
      (whole_word _ (by simp) _)
  | refused short acquired outcome =>
    exact ((whole_acquired acquired).append (whole_send ok mypid short outcome)).append
      (whole_release _ _)

private theorem recvLocked_whole {w : World} {q : List Request} (queue : Represents s w.mem q) :
    ∃ r ws, recvLocked s w = some (r, w.extend ws) ∧ Whole s w.mem ws := by
  cases q with
  | nil =>
    refine ⟨_, _, recv_run_nil queue, .apart (fun i => .elsewhere fun w member => ?_)
      fun w member => ?_⟩
    · obtain rfl := List.mem_singleton.mp member
      simp [Write.OnSlot]
    · obtain rfl := List.mem_singleton.mp member
      simp [Write.Apart, Write.Foreign, SlotField]
  | cons r q =>
    refine ⟨_, _, recv_run_cons queue, fun i => .elsewhere fun w member =>
      (recv_ofQueue s _ w member).not_on, ?_, fun unlocked => ?_⟩
    · intro q' queue'
      have empty : q' ≠ [] := by
        rintro rfl
        have := queue'.empty_iff.mpr rfl
        have := queue.empty_iff.mp this
        cases this
      cases q' with
      | nil => exact absurd rfl empty
      | cons r' q' =>
        have leaves := (recv_along queue').final trivial
        unfold RecvLeaves at leaves
        exact ⟨_, leaves⟩
    · rw [Mem.writeAll_u32_of_not_mem fun v member =>
        (recv_ofQueue s _ _ member).not_mutex v rfl]
      exact unlocked

/-- Every whole operation runs to its end and keeps what `Whole` says. -/
theorem runOp_whole (ok : s.QueueOk) (op : SlotOp) {w : World} {q : List Request}
    (queue : Represents s w.mem q) (unlocked : w.mem.u32 .hdrMutex = 0) :
    ∃ ws, runOp s op w = some ((), w.extend ws) ∧ Whole s w.mem ws := by
  cases op with
  | trySend mypid pidAlive data =>
    obtain ⟨r, ws, run, tried⟩ := trySend_run mypid pidAlive data queue unlocked
    exact ⟨ws, by simp [runOp, run], whole_tried ok tried⟩
  | recvLocked =>
    obtain ⟨r, ws, run, whole⟩ := recvLocked_whole queue
    exact ⟨ws, by simp [runOp, run], whole⟩
  | writeResponse id response =>
    obtain ⟨r, ws, run, replied⟩ := writeResponse_run s id response w
    exact ⟨ws, by simp [runOp, run], whole_replied replied⟩
  | pollResponse id =>
    obtain ⟨r, ws, run, polled⟩ := pollResponse_run s id w
    refine ⟨ws, by simp [runOp, run], ?_⟩
    cases polled with
    | stale gen => exact .nil _
    | notReady => exact .nil _
    | read gen ready bytes => exact whole_release _ _
  | cancelRequest id =>
    rcases cancelRequest_run s id w with run | ⟨-, -, run⟩
    · exact ⟨[], by rw [World.extend_nil]; exact run, .nil _⟩
    · exact ⟨_, run, whole_cancel _ _⟩
  | tryDrainResponse id =>
    rcases tryDrainResponse_run s id w with run | ⟨-, -, run⟩
    · exact ⟨[], by rw [World.extend_nil]; exact run, .nil _⟩
    · exact ⟨_, run, whole_release _ _⟩

/-- A history of whole operations. -/
theorem runOps_whole (ok : s.QueueOk) (ops : List SlotOp) {w : World} {q : List Request}
    (queue : Represents s w.mem q) (unlocked : w.mem.u32 .hdrMutex = 0) :
    ∃ ws, runOps s ops w = some ((), w.extend ws) ∧ Whole s w.mem ws := by
  induction ops generalizing w q with
  | nil => exact ⟨[], by rw [World.extend_nil]; rfl, .nil _⟩
  | cons op ops ih =>
    obtain ⟨ws, run, whole⟩ := runOp_whole ok op queue unlocked
    obtain ⟨q', queue'⟩ := whole.queue q queue
    obtain ⟨ws', runs, whole'⟩ := ih (w := w.extend ws) queue' (whole.mutex unlocked)
    refine ⟨ws ++ ws', ?_, whole.append whole'⟩
    simp only [runOps, bind_apply, run, Option.bind_some, runs, World.extend_extend]

end ReqRep
