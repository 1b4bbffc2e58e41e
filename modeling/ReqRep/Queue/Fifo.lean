import ReqRep.Misc.BoundedQueue
import ReqRep.Queue.Preserve

/-!
# The request queue is a bounded FIFO

Any sequence of `sendLocked` and `recvLocked` calls refines the abstract
bounded queue: each call is one of its steps on the requests that the mapping
holds.
-/

namespace ReqRep

open Exec
open BoundedQueue (Event Step Steps pushed popped)

/-- What `recvLocked` returns of a request. -/
abbrev Delivery := List UInt8 × UInt64

/-- What the receiver gets of a request. -/
def Request.delivery (r : Request) : Delivery := (r.data, r.id)

/-- A call made under the arena mutex. -/
inductive QueueCall where
  | send (r : Request)
  | recv
  deriving DecidableEq, Repr

/-- The checks made by the callers: `trySend` bounds the length, and the slot
comes from `acquireRespSlot`. -/
def QueueCall.Ok (s : Shm) : QueueCall → Prop
  | .send r => Short r.data ∧ r.respSlot < s.respSlots
  | .recv => True

instance (s : Shm) (c : QueueCall) : Decidable (c.Ok s) := by
  cases c <;> unfold QueueCall.Ok <;> infer_instance

/-- One call and what its caller sees. -/
def runCall (s : Shm) : QueueCall → Exec (Event Delivery)
  | .send r => do
    if ← sendLocked s r.data r.respSlot r.respGen then
      return .push r.delivery
    else
      return .reject
  | .recv => do
    match ← recvLocked s with
    | some got => return .pop got
    | none => return .empty

/-- The memory after some calls, and what their callers saw. -/
def runCalls (s : Shm) : List QueueCall → Mem → Option (Mem × List (Event Delivery))
  | [], m => some (m, [])
  | c :: cs, m => do
    let (e, w) ← (runCall s c).run m
    let (m', es) ← runCalls s cs w.mem
    return (m', e :: es)

/-- The queue part of a fresh file. The counters start anywhere. -/
structure FreshQueue (m : Mem) : Prop where
  counters : m.u64 .hdrReqHead = m.u64 .hdrReqTail
  wpos : m.u32 .hdrArenaWpos = 0
  used : m.u32 .hdrArenaUsed = 0

variable {s : Shm} {m : Mem} {q : List Request}

/-- An empty queue holds no requests, whatever the arena words say. -/
theorem Represents.of_empty (empty : m.u64 .hdrReqTail = m.u64 .hdrReqHead)
    (bound : (m.u32 .hdrArenaWpos).toNat < s.reqArenaCap.toNat + 8) : Represents s m [] := by
  refine ⟨[], ⟨.nil _ bound, ?_, Nat.zero_le _, by simp, by simp⟩, rfl⟩
  simp [empty]

theorem FreshQueue.represents (fresh : FreshQueue m) : Represents s m [] :=
  .of_empty fresh.counters.symm (by simp [fresh.wpos])

theorem Represents.wpos_bound (queue : Represents s m q) :
    (m.u32 .hdrArenaWpos).toNat < s.reqArenaCap.toNat + 8 := by
  obtain ⟨live, ring, -⟩ := queue
  exact ring.valid.overshoot

theorem Represents.bounded (queue : Represents s m q) : q.length ≤ s.reqCap.toNat := by
  obtain ⟨live, ring, rfl⟩ := queue
  rw [List.length_map]
  exact ring.bounded

theorem Represents.count (queue : Represents s m q) :
    (m.u64 .hdrReqTail - m.u64 .hdrReqHead).toNat = q.length := by
  obtain ⟨live, ring, rfl⟩ := queue
  rw [ring.count, List.length_map]

theorem Represents.empty_iff (queue : Represents s m q) :
    m.u64 .hdrReqTail = m.u64 .hdrReqHead ↔ q = [] := by
  obtain ⟨live, ring, rfl⟩ := queue
  rw [ring.empty_iff, List.map_eq_nil_iff]

theorem Represents.foreign (queue : Represents s m q) {w : Write} (foreign : w.Foreign) :
    Represents s (m.write w) q := by
  obtain ⟨live, ring, same⟩ := queue
  exact ⟨live, ring.foreign foreign, same⟩

/-! ## One call -/

/-- A refused send leaves `req_tail` alone; a successful one increments it and
had room to. -/
private theorem sent_tail (queue : Represents s m q) {r : Request} {sent : Bool}
    {ws : List Write} (outcome : Sent s m r sent ws) :
    (sent = false ∧ (m.writeAll ws).u64 .hdrReqTail = m.u64 .hdrReqTail) ∨
      (sent = true ∧ q.length < s.reqCap.toNat ∧
        (m.writeAll ws).u64 .hdrReqTail ≠ m.u64 .hdrReqTail) := by
  cases outcome with
  | queueFull full => exact .inl ⟨rfl, by simp⟩
  | refused space refused =>
    cases refused with
    | tooLong long => exact .inl ⟨rfl, rfl⟩
    | full room refused => exact .inl ⟨rfl, by simp⟩
  | sent space placed =>
    obtain ⟨live, ring, rfl⟩ := queue
    refine .inr ⟨rfl, ?_, ?_⟩
    · rw [List.length_map]
      exact ring.space_iff.mp space
    · simp [sendWrites, Mem.writeAll_append]

/-- A send refuses, or it appends the request. -/
theorem send_represents (ok : s.QueueOk) (queue : Represents s m q) {r : Request}
    (short : Short r.data) {sent : Bool} {ws : List Write} (outcome : Sent s m r sent ws) :
    (sent = false ∧ Represents s (m.writeAll ws) q) ∨
      (sent = true ∧ q.length < s.reqCap.toNat ∧ Represents s (m.writeAll ws) (q ++ [r])) := by
  have leaves := (send_along ok queue short outcome).final trivial
  unfold SendLeaves at leaves
  rcases sent_tail queue outcome with ⟨refused, same⟩ | ⟨sent, space, moved⟩
  · rw [if_pos same] at leaves
    exact .inl ⟨refused, leaves⟩
  · rw [if_neg moved] at leaves
    exact .inr ⟨sent, space, leaves⟩

theorem recv_run_nil {w : World} (queue : Represents s w.mem []) :
    recvLocked s w = some (none,
      w.extend [.w32 .hdrStatRecvEmpty (w.mem.u32 .hdrStatRecvEmpty + 1)]) :=
  recvLocked_empty s w (queue.empty_iff.mpr rfl)

/-- `recvLocked` returns the oldest request. -/
theorem recv_run_cons {w : World} {r : Request} (queue : Represents s w.mem (r :: q)) :
    recvLocked s w = some (some r.delivery, w.extend (recvWrites s w.mem)) := by
  have nonempty : ¬ w.mem.u64 .hdrReqTail = w.mem.u64 .hdrReqHead := fun same => by
    simpa using queue.empty_iff.mp same
  obtain ⟨live, ring, same⟩ := queue
  cases live with
  | nil => cases same
  | cons rb live =>
    obtain ⟨rfl, -⟩ := List.cons.inj same
    have held := ring.holds 0 (by simp)
    have first : queueIndex s w.mem 0 = ringIndex s (w.mem.u64 .hdrReqHead) := by
      simp [queueIndex]
    rw [List.getElem_cons_zero, first] at held
    exact recvLocked_run nonempty held

/-- What a receive returns of a queue. -/
def received (q : List Delivery) : Event Delivery :=
  match q with
  | [] => .empty
  | d :: _ => .pop d

/-- A receive takes the oldest request, if there is one. -/
theorem recv_call (queue : Represents s m q) :
    ∃ w, (runCall s .recv).run m = some (received (q.map Request.delivery), w) ∧
      Represents s w.mem q.tail := by
  cases q with
  | nil =>
    have run := recv_run_nil (w := ⟨m, []⟩) queue
    refine ⟨_, by simp only [runCall, Exec.run, bind_apply, run, Option.bind_some, pure_apply]; rfl,
      ?_⟩
    exact queue.foreign (w := .w32 _ _) ⟨by decide, by decide, fun _ => id⟩
  | cons r q =>
    have run := recv_run_cons (w := ⟨m, []⟩) queue
    refine ⟨_, by simp only [runCall, Exec.run, bind_apply, run, Option.bind_some, pure_apply]; rfl,
      ?_⟩
    have leaves := (recv_along queue).final trivial
    unfold RecvLeaves at leaves
    rwa [if_neg ?_] at leaves
    simp [recvWrites, Mem.writeAll_append]

/-- One call is one step of the abstract queue. -/
theorem call_step (ok : s.QueueOk) (queue : Represents s m q) {c : QueueCall} (valid : c.Ok s) :
    ∃ e w q', (runCall s c).run m = some (e, w) ∧ Represents s w.mem q' ∧
      Step s.reqCap.toNat (q.map Request.delivery) e (q'.map Request.delivery) ∧ e ≠ .drop := by
  cases c with
  | send r =>
    obtain ⟨sent, ws, run, outcome⟩ :=
      sendLocked_run valid.1 valid.2 ⟨m, []⟩ queue.wpos_bound
    have outcome : Sent s m r sent ws := outcome
    simp only [runCall, Exec.run, bind_apply, run, Option.bind_some, ite_apply', pure_apply]
    rcases send_represents ok queue valid.1 outcome with ⟨rfl, after⟩ | ⟨rfl, space, after⟩
    · exact ⟨_, _, q, rfl, after, .reject, nofun⟩
    · refine ⟨_, _, q ++ [r], rfl, after, ?_, nofun⟩
      rw [List.map_append]
      exact .push (by rwa [List.length_map])
  | recv =>
    obtain ⟨w, run, after⟩ := recv_call queue
    refine ⟨_, w, q.tail, run, after, ?_⟩
    cases q with
    | nil => exact ⟨.empty, nofun⟩
    | cons r q => exact ⟨.pop, nofun⟩

/-! ## Any run -/

/-- Any calls, one after another: the steps of a bounded queue. -/
theorem calls_steps (ok : s.QueueOk) {calls : List QueueCall} (valid : ∀ c ∈ calls, c.Ok s)
    (queue : Represents s m q) :
    ∃ m' es q', runCalls s calls m = some (m', es) ∧ Represents s m' q' ∧
      Steps s.reqCap.toNat (q.map Request.delivery) es (q'.map Request.delivery) ∧ .drop ∉ es := by
  induction calls generalizing m q with
  | nil => exact ⟨m, [], q, rfl, queue, .nil, nofun⟩
  | cons c calls ih =>
    obtain ⟨e, w, q', run, queue', step, kept⟩ :=
      call_step ok queue (valid c List.mem_cons_self)
    obtain ⟨m'', es, q'', runs, queue'', steps, kepts⟩ :=
      ih (fun c member => valid c (List.mem_cons_of_mem _ member)) queue'
    refine ⟨m'', e :: es, q'', by simp [runCalls, run, runs], queue'', .cons step steps, ?_⟩
    exact List.not_mem_cons_of_ne_of_not_mem (Ne.symm kept) kepts

/-- The request queue is a bounded FIFO. From any fresh queue, no sequence of
calls panics; what was received is what was sent, in order, up to the requests
still waiting; these are at most `reqCap`, as many as the counters say; and the
next `recvLocked` returns the oldest of them, or reports empty when there is
none. -/
theorem queue_fifo (ok : s.QueueOk) (fresh : FreshQueue m) {calls : List QueueCall}
    (valid : ∀ c ∈ calls, c.Ok s) :
    ∃ m' es waiting, runCalls s calls m = some (m', es) ∧
      pushed es = popped es ++ waiting ∧
      waiting.length ≤ s.reqCap.toNat ∧
      (m'.u64 .hdrReqTail - m'.u64 .hdrReqHead).toNat = waiting.length ∧
      ∃ w, (runCall s .recv).run m' = some (received waiting, w) := by
  obtain ⟨m', es, q, runs, queue, steps, kept⟩ := calls_steps ok valid fresh.represents
  obtain ⟨w, next, -⟩ := recv_call queue
  refine ⟨m', es, q.map Request.delivery, runs, steps.conserves_popped kept, ?_, ?_, w, next⟩
  · rw [List.length_map]
    exact queue.bounded
  · rw [List.length_map]
    exact queue.count

/-- A fresh file whose queue counters start at `start`. -/
def freshMem (start : UInt64) : Mem where
  u32 _ := 0
  u64 l := if l = .hdrReqHead ∨ l = .hdrReqTail then start else 0
  u8 _ := 0

theorem freshMem_fresh (start : UInt64) : FreshQueue (freshMem start) := by
  constructor <;> rfl

/-- A small layout for runs on fixed inputs. -/
def tinyShm : Shm where
  reqCap := 2
  reqArenaCap := 4100
  respSlots := 1
  respDataMax := 8

/-- The counters wrap between these two sends. -/
theorem queue_fifo_wrapping :
    ∃ m' es waiting, runCalls tinyShm
        [.send ⟨[1], 0, 1⟩, .send ⟨[2], 0, 1⟩, .send ⟨[], 0, 1⟩, .recv] (freshMem (0 - 1)) =
        some (m', es) ∧
      pushed es = popped es ++ waiting ∧
      waiting.length ≤ tinyShm.reqCap.toNat ∧
      (m'.u64 .hdrReqTail - m'.u64 .hdrReqHead).toNat = waiting.length ∧
      ∃ w, (runCall tinyShm .recv).run m' = some (received waiting, w) :=
  queue_fifo (by decide) (freshMem_fresh _) (by decide)

end ReqRep
