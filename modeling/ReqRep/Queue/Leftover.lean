import ReqRep.Queue.Exact

/-!
# An empty queue accepts what fits

A sender that dies before it publishes leaves any write position and any count of
used bytes behind. An empty queue takes a request all the same, and hands it back
whole; data longer than the arena is refused in every state.
-/

namespace ReqRep

open Exec

variable {s : Shm} {m : Mem} {r : Request}

/-! ## Refusing what is too long -/

/-- `writeArenaLocked` refuses what is longer than the arena. -/
theorem writeArenaLocked_tooLong (short : Short r.data)
    (long : s.reqArenaCap.toNat < r.data.length) (w : World) :
    writeArenaLocked s r.data w = some (none, w) := by
  have beyond : UInt32.ofNat r.data.length > s.reqArenaCap := by
    rwa [gt_iff_lt, UInt32.lt_iff_toNat_lt, length_toNat short]
  unfold writeArenaLocked
  dsimp only
  rw [if_pos beyond, pure_apply]

/-- `sendLocked` refuses what is longer than the arena. -/
theorem sendLocked_tooLong (short : Short r.data) (slot : r.respSlot < s.respSlots)
    (long : s.reqArenaCap.toNat < r.data.length) (w : World) :
    ∃ ws, sendLocked s r.data r.respSlot r.respGen w = some (false, w.extend ws) ∧
      (ws = [] ∨ ws = [.w64 .hdrStatSendFull (w.mem.u64 .hdrStatSendFull + 1)]) := by
  have inBounds : ¬ r.respSlot ≥ s.respSlots := by
    simpa using slot
  unfold sendLocked
  simp only [inBounds, if_false, bind_apply, load64_apply, Option.bind_some, ite_apply']
  split
  · exact ⟨_, rfl, .inr rfl⟩
  · refine ⟨[], ?_, .inl rfl⟩
    rw [writeArenaLocked_tooLong short long, Option.bind_some, World.extend_nil]
    rfl

/-! ## Accepting what fits -/

/-- The bytes that a send stores lie in the arena. -/
theorem Sent.in_arena {sent : Bool} {ws : List Write} (ok : s.QueueOk)
    (bound : (m.u32 .hdrArenaWpos).toNat < s.reqArenaCap.toNat + 8) (outcome : Sent s m r sent ws)
    {l : Loc8} {v : UInt8} (member : .w8 l v ∈ ws) : ∃ k < s.reqArenaCap.toNat, l = .arena k := by
  cases outcome with
  | queueFull full => cases List.mem_singleton.mp member
  | refused space refused =>
    cases refused with
    | tooLong long => cases member
    | full room refused => cases List.mem_singleton.mp member
  | @sent off skip base reset space placed =>
    have inside := (CircularBuffer.place_bounds (allocate_fits ok.arena placed.room) bound
      placed.placed).1
    simp only [sendWrites, arenaWrites, fieldWrites, List.mem_append, List.mem_cons,
      List.not_mem_nil, or_false, reduceCtorEq] at member
    rcases member with stored | copied
    · rcases placed.reset_eq with ⟨rfl, -⟩ | ⟨rfl, -, -⟩
      · cases stored
      · simp at stored
    · obtain ⟨k, b, low, high, same⟩ := mem_copyWrites copied
      injection same with same
      exact ⟨k, by omega, same⟩

/-- An empty queue never refuses a request that fits. Whatever a dead sender left
in the arena words, `sendLocked` accepts it and stores inside the arena, and the
next `recvLocked` returns exactly its data, slot and generation. In every state
data longer than the arena is refused, and neither the queue nor the arena
changes. -/
theorem empty_queue_accepts (ok : s.QueueOk) (short : Short r.data)
    (slot : r.respSlot < s.respSlots) (m : Mem) :
    (m.u64 .hdrReqTail = m.u64 .hdrReqHead → m.u32 .hdrArenaWpos ≤ s.reqArenaCap →
      r.data.length ≤ s.reqArenaCap.toNat →
      ∃ w w' id, (sendLocked s r.data r.respSlot r.respGen).run m = some (true, w) ∧
        (∀ l v, .w8 l v ∈ w.writes → ∃ k < s.reqArenaCap.toNat, l = .arena k) ∧
        (recvLocked s).run w.mem = some (some (r.data, id), w') ∧
        idSlot id = r.respSlot ∧ idGen id = r.respGen) ∧
    (s.reqArenaCap.toNat < r.data.length →
      ∃ w, (sendLocked s r.data r.respSlot r.respGen).run m = some (false, w) ∧
        w.mem.u32 = m.u32 ∧ w.mem.u8 = m.u8 ∧
        w.mem.u64 .hdrReqHead = m.u64 .hdrReqHead ∧
        w.mem.u64 .hdrReqTail = m.u64 .hdrReqTail) := by
  constructor
  · intro empty wpos room
    have bound : (m.u32 .hdrArenaWpos).toNat < s.reqArenaCap.toNat + 8 := by
      have := UInt32.le_iff_toNat_le.mp wpos
      omega
    obtain ⟨sent, ws, run, outcome⟩ := sendLocked_run short slot ⟨m, []⟩ bound
    obtain rfl := outcome.of_empty ok.reqCap empty room
    rcases send_represents ok (.of_empty empty bound) short outcome with ⟨refused, -⟩ |
      ⟨-, -, queue⟩
    · cases refused
    · have received := recv_run_cons (w := ⟨m.writeAll ws, []⟩) queue
      refine ⟨_, _, r.id, run, fun l v member => ?_, received, ?_, ?_⟩
      · rw [World.extend_writes, List.nil_append] at member
        exact outcome.in_arena ok bound member
      · exact idSlot_packId _ _
      · exact idGen_packId _ _
  · intro long
    obtain ⟨ws, run, stat⟩ := sendLocked_tooLong short slot long ⟨m, []⟩
    refine ⟨_, run, ?_⟩
    rcases stat with rfl | rfl
    · exact ⟨rfl, rfl, rfl, rfl⟩
    · exact ⟨rfl, rfl, by simp, by simp⟩

/-- A memory that a dead sender left, with both arena words at the capacity. -/
def leftoverMem : Mem where
  u32 l := if l = .hdrArenaWpos ∨ l = .hdrArenaUsed then 4100 else 0
  u64 _ := 0
  u8 _ := 0

theorem empty_queue_accepts_leftover :
    (∃ w w' id, (sendLocked tinyShm [1, 2, 3] 0 7).run leftoverMem = some (true, w) ∧
      (∀ l v, .w8 l v ∈ w.writes → ∃ k < tinyShm.reqArenaCap.toNat, l = .arena k) ∧
      (recvLocked tinyShm).run w.mem = some (some ([1, 2, 3], id), w') ∧
      idSlot id = 0 ∧ idGen id = 7) ∧
    ∃ w, (sendLocked tinyShm (List.replicate 5000 0) 0 7).run leftoverMem = some (false, w) ∧
      w.mem.u32 = leftoverMem.u32 ∧ w.mem.u8 = leftoverMem.u8 ∧
      w.mem.u64 .hdrReqHead = leftoverMem.u64 .hdrReqHead ∧
      w.mem.u64 .hdrReqTail = leftoverMem.u64 .hdrReqTail := by
  constructor
  · exact (empty_queue_accepts (r := ⟨[1, 2, 3], 0, 7⟩) (by decide) (by decide) (by decide)
      leftoverMem).1 rfl (by decide) (by decide)
  · refine (empty_queue_accepts (r := ⟨List.replicate 5000 0, 0, 7⟩) (by decide) ?_ (by decide)
      leftoverMem).2 ?_
    · rw [Short, List.length_replicate]
      decide
    · rw [List.length_replicate]
      decide

end ReqRep
