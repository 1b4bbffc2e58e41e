import ReqRep.Queue.Preserve

/-!
# The accounts of the arena

While no process dies, `arena_used` is exactly the sum of the `arena_skip` words
of the queued slots. `Accounted` is about the words of the queue alone, so it
holds for requests of either language.
-/

namespace ReqRep

/-- How many requests are queued, as the counters say. -/
def queued (m : Mem) : Nat := (m.u64 .hdrReqTail - m.u64 .hdrReqHead).toNat

/-- The charge of the `k`th queued request. -/
def slotSkip (s : Shm) (m : Mem) (k : Nat) : Nat :=
  (m.u32 (.reqSlotArenaSkip (queueIndex s m k))).toNat

/-- What the queued requests are charged together. -/
def charged (s : Shm) (m : Mem) : Nat := ((List.range (queued m)).map (slotSkip s m)).sum

/-- The arena is charged exactly what the queued requests are charged together. -/
structure Accounted (s : Shm) (m : Mem) : Prop where
  bounded : queued m ≤ s.reqCap.toNat
  wpos : (m.u32 .hdrArenaWpos).toNat < s.reqArenaCap.toNat + 8
  used : (m.u32 .hdrArenaUsed).toNat = charged s m
  idle : queued m = 0 → m.u32 .hdrArenaWpos = 0
  beyond : s.reqArenaCap.toNat < (m.u32 .hdrArenaWpos).toNat →
    queued m = 1 ∧ m.u32 .hdrArenaUsed = m.u32 .hdrArenaWpos
  fits : ∀ k < queued m, SlotFits s m (queueIndex s m k)
  charges : ∀ k < queued m, 0 < slotSkip s m k

variable {s : Shm} {m m' : Mem} {r : Request}

/-! ## Positions -/

theorem queued_eq_zero : queued m = 0 ↔ m.u64 .hdrReqTail = m.u64 .hdrReqHead := by
  unfold queued
  constructor
  · intro zero
    have sum := UInt64.sub_add_cancel (m.u64 .hdrReqTail) (m.u64 .hdrReqHead)
    rw [show m.u64 .hdrReqTail - m.u64 .hdrReqHead = 0 from UInt64.toNat_inj.mp zero,
      UInt64.zero_add] at sum
    exact sum.symm
  · intro same
    rw [same, UInt64.sub_self]
    rfl

/-- The slot after the last queued one is the one `req_tail` names. -/
theorem queueIndex_queued (s : Shm) (m : Mem) :
    queueIndex s m (queued m) = ringIndex s (m.u64 .hdrReqTail) := by
  unfold queueIndex queued
  rw [UInt64.ofNat_toNat, UInt64.add_comm, UInt64.sub_add_cancel]

theorem queueIndex_ne (ok : s.QueueOk) {k : Nat} (bound : k < queued m)
    (space : queued m < s.reqCap.toNat) : queueIndex s m k ≠ ringIndex s (m.u64 .hdrReqTail) := by
  rw [← queueIndex_queued s m]
  intro same
  have := ok.reqCap.index_inj _ (Nat.lt_trans bound space) space same
  omega

theorem queueIndex_zero (s : Shm) (m : Mem) :
    queueIndex s m 0 = ringIndex s (m.u64 .hdrReqHead) := by
  simp [queueIndex]

/-- Queued positions count from `req_head`. -/
theorem queueIndex_congr (head : m'.u64 .hdrReqHead = m.u64 .hdrReqHead) (k : Nat) :
    queueIndex s m' k = queueIndex s m k := by
  rw [queueIndex, queueIndex, head]

/-! ## Stores elsewhere -/

/-- The words that the accounts are about. -/
def QueueWord (l : Loc32) : Prop := l = .hdrArenaWpos ∨ l = .hdrArenaUsed ∨ ∃ idx, SlotField idx l

/-- The account is about the queue's words only. -/
theorem Accounted.congr (accounted : Accounted s m) (words : ∀ l, QueueWord l → m'.u32 l = m.u32 l)
    (head : m'.u64 .hdrReqHead = m.u64 .hdrReqHead)
    (tail : m'.u64 .hdrReqTail = m.u64 .hdrReqTail) : Accounted s m' := by
  have count : queued m' = queued m := by rw [queued, queued, head, tail]
  have wpos : m'.u32 .hdrArenaWpos = m.u32 .hdrArenaWpos := words _ (.inl rfl)
  have used : m'.u32 .hdrArenaUsed = m.u32 .hdrArenaUsed := words _ (.inr (.inl rfl))
  have index : ∀ k, queueIndex s m' k = queueIndex s m k := queueIndex_congr head
  have field : ∀ idx l, SlotField idx l → m'.u32 l = m.u32 l :=
    fun idx l field => words l (.inr (.inr ⟨idx, field⟩))
  have skip : slotSkip s m' = slotSkip s m := funext fun k => by
    rw [slotSkip, slotSkip, index, field _ (.reqSlotArenaSkip _) rfl]
  have fits : ∀ idx, SlotFits s m' idx ↔ SlotFits s m idx := fun idx => by
    rw [SlotFits, SlotFits, field idx (.reqSlotArenaOff idx) rfl,
      field idx (.reqSlotPackedLen idx) rfl]
  constructor
  · rw [count]
    exact accounted.bounded
  · rw [wpos]
    exact accounted.wpos
  · rw [used, accounted.used, charged, charged, count, skip]
  · rw [count, wpos]
    exact accounted.idle
  · rw [count, wpos, used]
    exact accounted.beyond
  · intro k bound
    rw [count] at bound
    rw [fits, index]
    exact accounted.fits k bound
  · intro k bound
    rw [count] at bound
    rw [skip]
    exact accounted.charges k bound

theorem FreshQueue.accounted (counters : m.u64 .hdrReqHead = m.u64 .hdrReqTail)
    (wpos : m.u32 .hdrArenaWpos = 0) (used : m.u32 .hdrArenaUsed = 0) : Accounted s m := by
  have none : queued m = 0 := queued_eq_zero.mpr counters.symm
  constructor
  · omega
  · simp [wpos]
  · simp [charged, none, used]
  · exact fun _ => wpos
  · intro beyond
    simp [wpos] at beyond
  · intro k bound
    omega
  · intro k bound
    omega

/-! ## Sending -/

/-- A successful send, seen from the words of the queue. -/
structure SendEffect (s : Shm) (m m' : Mem) (r : Request) (off skip base : Nat) : Prop where
  wpos : (m'.u32 .hdrArenaWpos).toNat = off + allocate r.data.length
  used : (m'.u32 .hdrArenaUsed).toNat = base + skip
  head : m'.u64 .hdrReqHead = m.u64 .hdrReqHead
  tail : m'.u64 .hdrReqTail = m.u64 .hdrReqTail + 1
  newOff : m'.u32 (.reqSlotArenaOff (ringIndex s (m.u64 .hdrReqTail))) = UInt32.ofNat off
  newLen : m'.u32 (.reqSlotPackedLen (ringIndex s (m.u64 .hdrReqTail))) =
    UInt32.ofNat r.data.length
  newSkip : m'.u32 (.reqSlotArenaSkip (ringIndex s (m.u64 .hdrReqTail))) = UInt32.ofNat skip
  others : ∀ idx ≠ ringIndex s (m.u64 .hdrReqTail), ∀ l, SlotField idx l → m'.u32 l = m.u32 l

/-- What the writes of `sendLocked` do to the queue's words. -/
theorem send_effect {off skip base : Nat} {reset : List Write}
    (placed : Placed s m r.data off skip base reset) :
    SendEffect s m (m.writeAll (sendWrites s m r off skip base reset)) r off skip base := by
  have effect := arena_effect placed
  have words := effect.words
  simp only [sendWrites, Mem.writeAll_append]
  generalize m.writeAll (arenaWrites r.data off skip base reset) = m₁ at effect words ⊢
  have counters := effect.counters
  constructor
  · simpa [fieldWrites] using effect.wpos
  · simpa [fieldWrites] using effect.used
  · simp [fieldWrites, counters]
  · simp [fieldWrites]
  · simp [fieldWrites]
  · simp [fieldWrites]
  · simp [fieldWrites]
  · intro idx other l field
    have same : m₁.u32 l = m.u32 l := words l (by rintro rfl; exact field)
      (by rintro rfl; exact field)
    rw [← same]
    cases l <;> simp_all [SlotField, fieldWrites]

private theorem queued_succ (space : queued m < s.reqCap.toNat)
    (head : m'.u64 .hdrReqHead = m.u64 .hdrReqHead)
    (tail : m'.u64 .hdrReqTail = m.u64 .hdrReqTail + 1) : queued m' = queued m + 1 := by
  have := s.reqCap.toNat_lt
  unfold queued at space ⊢
  rw [head, tail]
  have shift : m.u64 .hdrReqTail + 1 - m.u64 .hdrReqHead =
      m.u64 .hdrReqTail - m.u64 .hdrReqHead + 1 := by
    rw [UInt64.sub_eq_add_neg, UInt64.sub_eq_add_neg, UInt64.add_assoc, UInt64.add_comm 1,
      ← UInt64.add_assoc]
  rw [shift, UInt64.toNat_add]
  exact Nat.mod_eq_of_lt (by simp only [UInt64.reduceToNat]; omega)

/-- A send keeps the accounts. -/
theorem Accounted.send (ok : s.QueueOk) (accounted : Accounted s m) (short : Short r.data)
    {sent : Bool} {ws : List Write} (outcome : Sent s m r sent ws) :
    Accounted s (m.writeAll ws) := by
  have stat : ∀ v, Accounted s (m.writeAll [.w64 .hdrStatSendFull v]) := fun v =>
    accounted.congr (fun _ _ => rfl) (by simp) (by simp)
  cases outcome with
  | queueFull full => exact stat _
  | refused space refused =>
    cases refused with
    | tooLong long => exact accounted
    | full room refused => exact stat _
  | @sent off skip base reset space placed =>
    have effect := send_effect placed
    generalize m.writeAll (sendWrites s m r off skip base reset) = m' at effect ⊢
    have space : queued m < s.reqCap.toNat := by
      rwa [UInt64.lt_iff_toNat_lt, UInt32.toNat_toUInt64] at space
    have fits := allocate_fits ok.arena placed.room
    have free := placed.placed
    have bounds := CircularBuffer.place_bounds fits accounted.wpos free
    have count := queued_succ space effect.head effect.tail
    have index : ∀ k, queueIndex s m' k = queueIndex s m k := queueIndex_congr effect.head
    have last := queueIndex_queued s m
    have old : ∀ k < queued m, ∀ l, SlotField (queueIndex s m k) l → m'.u32 l = m.u32 l :=
      fun k bound => effect.others _ (queueIndex_ne ok bound space)
    have skipLt : skip < 2 ^ 32 := by
      have := placed.used_lt
      omega
    have newSkip : slotSkip s m' (queued m) = skip := by
      rw [slotSkip, index, last, effect.newSkip, UInt32.toNat_ofNat', Nat.mod_eq_of_lt skipLt]
    have oldSkip : ∀ k < queued m, slotSkip s m' k = slotSkip s m k := fun k bound => by
      rw [slotSkip, slotSkip, index, old k bound (.reqSlotArenaSkip _) rfl]
    have sum : charged s m' = charged s m + skip := by
      rw [charged, count, List.range_succ, List.map_append, List.sum_append, List.map_singleton,
        List.sum_singleton, newSkip, charged]
      congr 2
      exact List.map_congr_left fun k member => oldSkip k (List.mem_range.mp member)
    have emptyCharged : queued m = 0 → charged s m = 0 := fun none => by simp [charged, none]
    have unit := fits.unit_le
    have wposEq := effect.wpos
    have usedEq := effect.used
    have usedBefore := accounted.used
    constructor
    · omega
    · rw [wposEq]
      exact bounds.2.1
    · rw [usedEq, sum]
      rcases CircularBuffer.place_cases free with h | h | ⟨empty, -, -, base⟩
      · omega
      · omega
      · have none := emptyCharged (queued_eq_zero.mpr (of_decide_eq_true empty))
        omega
    · intro none
      omega
    · intro beyond
      rw [wposEq] at beyond
      rcases CircularBuffer.place_cases free with h | h | ⟨empty, offEq, skipEq, base⟩
      · omega
      · -- the charge of the tail would not fit if the write position had overshot
        have notOver : ¬ s.reqArenaCap.toNat < (m.u32 .hdrArenaWpos).toNat := by
          intro overshot
          have same := congrArg UInt32.toNat (accounted.beyond overshot).2
          omega
        omega
      · have none := queued_eq_zero.mpr (of_decide_eq_true empty)
        refine ⟨by omega, UInt32.toNat_inj.mp ?_⟩
        omega
    · intro k bound
      rw [count] at bound
      rw [index]
      rcases Nat.lt_succ_iff_lt_or_eq.mp bound with before | rfl
      · have kept := accounted.fits k before
        unfold SlotFits at kept ⊢
        rwa [old k before (.reqSlotArenaOff _) rfl, old k before (.reqSlotPackedLen _) rfl]
      · have offLt : off < 2 ^ 32 := by
          have := placed.off_lt
          omega
        have len : (UInt32.ofNat r.data.length &&& layoutStrLenMask).toNat = r.data.length := by
          rw [UInt32.toNat_and, length_toNat short]
          exact (Nat.and_two_pow_sub_one_eq_mod _ 31).trans (Nat.mod_eq_of_lt (short_lt short))
        rw [last, SlotFits, effect.newOff, effect.newLen, len, UInt32.toNat_ofNat',
          Nat.mod_eq_of_lt offLt]
        exact bounds.1
    · intro k bound
      rw [count] at bound
      rcases Nat.lt_succ_iff_lt_or_eq.mp bound with before | rfl
      · rw [oldSkip k before]
        exact accounted.charges k before
      · rw [newSkip]
        exact bounds.2.2.1

/-! ## Receiving -/

theorem charged_succ {n : Nat} (count : queued m = n + 1) :
    charged s m = slotSkip s m 0 + ((List.range n).map fun k => slotSkip s m (k + 1)).sum := by
  rw [charged, count, List.range_succ_eq_map, List.map_cons, List.sum_cons, List.map_map]
  rfl

theorem exists_queued_succ (nonempty : m.u64 .hdrReqTail ≠ m.u64 .hdrReqHead) :
    ∃ n, queued m = n + 1 :=
  Nat.exists_eq_succ_of_ne_zero fun none => nonempty (queued_eq_zero.mp none)

theorem headSkip_toNat (s : Shm) (m : Mem) :
    (m.u32 (.reqSlotArenaSkip (ringIndex s (m.u64 .hdrReqHead)))).toNat = slotSkip s m 0 := by
  rw [slotSkip, queueIndex_zero]

/-- The oldest request's charge is part of `arena_used`. -/
theorem Accounted.enough (accounted : Accounted s m)
    (nonempty : m.u64 .hdrReqTail ≠ m.u64 .hdrReqHead) :
    (m.u32 (.reqSlotArenaSkip (ringIndex s (m.u64 .hdrReqHead)))).toNat ≤
      (m.u32 .hdrArenaUsed).toNat := by
  obtain ⟨n, count⟩ := exists_queued_succ nonempty
  rw [accounted.used, headSkip_toNat, charged_succ count]
  exact Nat.le_add_right _ _

/-- A receive keeps the account. -/
theorem Accounted.recv (accounted : Accounted s m)
    (nonempty : m.u64 .hdrReqTail ≠ m.u64 .hdrReqHead) :
    Accounted s (m.writeAll (recvWrites s m)) := by
  obtain ⟨n, count⟩ := exists_queued_succ nonempty
  have sum := charged_succ (s := s) count
  have charge := headSkip_toNat s m
  have enough := accounted.enough nonempty
  have effect := release_effect enough
  rw [charge] at effect
  unfold recvWrites
  rw [Mem.writeAll_append]
  generalize m.writeAll (releaseWrites m _) = m₁ at effect ⊢
  have counters := effect.counters
  -- the words after the release are those after the increment of `req_head`
  have words : (m₁.writeAll [.w64 .hdrReqHead (m.u64 .hdrReqHead + 1)]).u32 = m₁.u32 := rfl
  generalize hm' : m₁.writeAll [.w64 .hdrReqHead (m.u64 .hdrReqHead + 1)] = m' at words ⊢
  have head : m'.u64 .hdrReqHead = m.u64 .hdrReqHead + 1 := by simp [← hm']
  have tail : m'.u64 .hdrReqTail = m.u64 .hdrReqTail := by simp [← hm', counters]
  have count' : queued m' = n := by
    have bounded := (m.u64 .hdrReqTail - m.u64 .hdrReqHead).toNat_lt
    unfold queued at count ⊢
    have shift : m.u64 .hdrReqTail - (m.u64 .hdrReqHead + 1) =
        m.u64 .hdrReqTail - m.u64 .hdrReqHead - 1 := by
      grind
    rw [head, tail, shift, UInt64.toNat_sub_of_le, count]
    · rfl
    · rw [UInt64.le_iff_toNat_le, count]
      exact Nat.succ_le_succ (Nat.zero_le _)
  have index : ∀ k, queueIndex s m' k = queueIndex s m (k + 1) := by
    intro k
    have shift : m.u64 .hdrReqHead + 1 + UInt64.ofNat k =
        m.u64 .hdrReqHead + UInt64.ofNat (k + 1) := by
      rw [UInt64.ofNat_add, UInt64.add_assoc, UInt64.add_comm 1]
      rfl
    rw [queueIndex, queueIndex, head, shift]
  have field : ∀ idx l, SlotField idx l → m'.u32 l = m.u32 l := by
    intro idx l field
    rw [words]
    exact effect.words l (by rintro rfl; exact field) (by rintro rfl; exact field)
  have skip : ∀ k, slotSkip s m' k = slotSkip s m (k + 1) := fun k => by
    rw [slotSkip, slotSkip, index, field _ (.reqSlotArenaSkip _) rfl]
  have sum' : charged s m' = ((List.range n).map fun k => slotSkip s m (k + 1)).sum := by
    rw [charged, count']
    congr 1
    exact List.map_congr_left fun k _ => skip k
  have usedEq : (m'.u32 .hdrArenaUsed).toNat = charged s m' := by
    rw [words, effect.used, accounted.used, sum, sum', Nat.add_sub_cancel_left]
  have wpos : m'.u32 .hdrArenaWpos = m.u32 .hdrArenaWpos ∨
      m'.u32 .hdrArenaWpos = 0 ∧ (m'.u32 .hdrArenaUsed).toNat = 0 := by
    rw [words]
    exact effect.wpos
  have noneCharged : n = 0 → charged s m' = 0 := by
    rintro rfl
    rw [sum']
    rfl
  have idle : n = 0 → m'.u32 .hdrArenaWpos = 0 := by
    intro none
    rw [noneCharged none, words] at usedEq
    rw [words]
    exact effect.reset usedEq
  have bounded := accounted.bounded
  constructor
  · omega
  · rcases wpos with same | ⟨zero, -⟩
    · rw [same]
      exact accounted.wpos
    · rw [zero, UInt32.toNat_zero]
      omega
  · exact usedEq
  · rw [count']
    exact idle
  · intro beyond
    rcases wpos with same | ⟨zero, -⟩
    · rw [same] at beyond
      have single := (accounted.beyond beyond).1
      have zero := idle (by omega)
      rw [← same, zero, UInt32.toNat_zero] at beyond
      omega
    · rw [zero, UInt32.toNat_zero] at beyond
      omega
  · intro k bound
    rw [count'] at bound
    have kept := accounted.fits (k + 1) (by omega)
    unfold SlotFits at kept ⊢
    rwa [index, field _ (.reqSlotArenaOff _) rfl, field _ (.reqSlotPackedLen _) rfl]
  · intro k bound
    rw [count'] at bound
    rw [skip]
    exact accounted.charges (k + 1) (by omega)

end ReqRep
