import ReqRep.Misc.Runs
import ReqRep.Queue.Accounting
import ReqRep.Queue.Fifo

/-!
# The arithmetic of the arena

What any run of `sendLocked` and `recvLocked` calls keeps of the arena words. The
accounts are exact. The write position stays inside the arena exactly while no
empty queue is handed data that fits only before it is rounded up.
-/

namespace ReqRep

open Exec

variable {s : Shm} {m : Mem} {r : Request} {c : QueueCall} {sent : Bool} {ws : List Write}

/-! ## One call -/

/-- The memory after one call. -/
def callStep (s : Shm) (m : Mem) (c : QueueCall) : Option Mem :=
  ((runCall s c).run m).map fun result => result.2.mem

/-- The stores of one call. -/
inductive Called (s : Shm) (m : Mem) : QueueCall → List Write → Prop where
  | send {r : Request} {sent : Bool} {ws : List Write} (short : Short r.data)
      (outcome : Sent s m r sent ws) : Called s m (.send r) ws
  | empty (empty : m.u64 .hdrReqTail = m.u64 .hdrReqHead) :
      Called s m .recv [.w32 .hdrStatRecvEmpty (m.u32 .hdrStatRecvEmpty + 1)]
  | recv (nonempty : m.u64 .hdrReqTail ≠ m.u64 .hdrReqHead) : Called s m .recv (recvWrites s m)

/-- Every call runs through, and what it writes. -/
theorem Accounted.runs (accounted : Accounted s m) (valid : c.Ok s) :
    ∃ e ws, (runCall s c).run m = some (e, World.extend ⟨m, []⟩ ws) ∧ Called s m c ws := by
  cases c with
  | send r =>
    obtain ⟨sent, ws, run, outcome⟩ := sendLocked_run valid.1 valid.2 ⟨m, []⟩ accounted.wpos
    refine ⟨if sent then .push r.delivery else .reject, ws, ?_, .send valid.1 outcome⟩
    simp only [runCall, Exec.run, bind_apply, run, Option.bind_some, ite_apply', pure_apply]
    split <;> rfl
  | recv =>
    by_cases empty : m.u64 .hdrReqTail = m.u64 .hdrReqHead
    · refine ⟨.empty, _, ?_, .empty empty⟩
      simp only [runCall, Exec.run, bind_apply, recvLocked_empty s ⟨m, []⟩ empty,
        Option.bind_some, pure_apply]
    · have fits := accounted.fits 0 (Nat.pos_of_ne_zero fun none => empty (queued_eq_zero.mp none))
      rw [queueIndex_zero] at fits
      refine ⟨.pop (slotBytes m (ringIndex s (m.u64 .hdrReqHead)),
        slotId m (ringIndex s (m.u64 .hdrReqHead))), recvWrites s m, ?_, .recv empty⟩
      simp only [runCall, Exec.run, bind_apply, recvLocked_slot (w := ⟨m, []⟩) empty fits,
        Option.bind_some, pure_apply]

/-- A receive of an empty queue only counts itself. -/
theorem Accounted.idles (accounted : Accounted s m) :
    Accounted s (m.writeAll [.w32 .hdrStatRecvEmpty (m.u32 .hdrStatRecvEmpty + 1)]) := by
  refine accounted.congr (fun l word => ?_) rfl rfl
  apply Mem.writeAll_u32_of_not_mem
  intro v member
  cases List.mem_singleton.mp member
  rcases word with same | same | ⟨idx, field⟩
  · cases same
  · cases same
  · exact field

theorem Accounted.called (ok : s.QueueOk) (accounted : Accounted s m) (called : Called s m c ws) :
    Accounted s (m.writeAll ws) := by
  cases called with
  | send short outcome => exact accounted.send ok short outcome
  | empty empty => exact accounted.idles
  | recv nonempty => exact accounted.recv nonempty

/-- The accounts hold after any run. -/
theorem runs_accounted (ok : s.QueueOk) {calls : List QueueCall} (valid : ∀ c ∈ calls, c.Ok s)
    (accounted : Accounted s m) :
    ∃ m', Runs.run (callStep s) m calls = some m' ∧ Accounted s m' := by
  induction calls generalizing m with
  | nil => exact ⟨m, rfl, accounted⟩
  | cons c calls ih =>
    obtain ⟨e, ws, run, called⟩ := accounted.runs (valid c List.mem_cons_self)
    have first : callStep s m c = some (m.writeAll ws) := by
      rw [callStep, run]
      rfl
    obtain ⟨m', rest, after⟩ := ih (fun c member => valid c (List.mem_cons_of_mem _ member))
      (accounted.called ok called)
    exact ⟨m', by rw [Runs.run, first]; exact rest, after⟩

/-! ## Exact accounts -/

/-- How many requests the call itself takes off the queue. -/
def QueueCall.takes : QueueCall → Nat
  | .send _ => 0
  | .recv => 1

/-- `arena_used` is the sum of the `arena_skip` words of the queued slots, with
what follows for `arena_wpos`, for the comparison in `releaseArenaLocked`, and
for the stores that reset `arena_wpos`: a call makes one only when no request is
queued but the one it takes. -/
structure ExactAccounts (s : Shm) (m : Mem) : Prop where
  used : (m.u32 .hdrArenaUsed).toNat = charged s m
  empty_iff : m.u32 .hdrArenaUsed = 0 ↔ m.u64 .hdrReqTail = m.u64 .hdrReqHead
  wpos : m.u64 .hdrReqTail = m.u64 .hdrReqHead → m.u32 .hdrArenaWpos = 0
  covers : m.u64 .hdrReqTail ≠ m.u64 .hdrReqHead →
    m.u32 .hdrArenaUsed ≥ m.u32 (.reqSlotArenaSkip (ringIndex s (m.u64 .hdrReqHead)))
  resets : ∀ c e w, c.Ok s → (runCall s c).run m = some (e, w) →
    .w32 .hdrArenaWpos 0 ∈ w.writes → queued m = c.takes

/-- `arena_used` is 0 exactly when the queue is empty. -/
theorem Accounted.used_eq_zero (accounted : Accounted s m) :
    m.u32 .hdrArenaUsed = 0 ↔ m.u64 .hdrReqTail = m.u64 .hdrReqHead := by
  rw [← queued_eq_zero, ← UInt32.toNat_inj, UInt32.toNat_zero, accounted.used]
  constructor
  · intro zero
    by_contra some
    obtain ⟨n, count⟩ := Nat.exists_eq_succ_of_ne_zero some
    rw [charged_succ count] at zero
    have := accounted.charges 0 (by omega)
    omega
  · intro none
    simp [charged, none]

/-- A send stores 0 in `arena_wpos` only where it resets an empty arena. -/
private theorem send_resets (outcome : Sent s m r sent ws)
    (reset : .w32 .hdrArenaWpos 0 ∈ ws) : m.u64 .hdrReqTail = m.u64 .hdrReqHead := by
  cases outcome with
  | queueFull full => cases List.mem_singleton.mp reset
  | refused space refused =>
    cases refused with
    | tooLong long => cases reset
    | full room refused => cases List.mem_singleton.mp reset
  | @sent off skip base resets space placed =>
    rcases placed.reset_eq with ⟨rfl, -⟩ | ⟨-, -, empty⟩
    · exfalso
      simp only [sendWrites, arenaWrites, fieldWrites, List.nil_append, List.mem_append,
        List.mem_cons, List.not_mem_nil, or_false, Write.w32.injEq, reduceCtorEq, false_and,
        true_and] at reset
      rcases reset with copied | zero
      · obtain ⟨_, _, _, _, same⟩ := mem_copyWrites copied
        cases same
      · have zero := congrArg UInt32.toNat zero
        have := placed.off_lt
        have := (le_allocate r.data.length).2
        rw [UInt32.toNat_zero, UInt32.toNat_ofNat', Nat.mod_eq_of_lt placed.off_lt] at zero
        omega
    · exact empty

/-- A receive stores 0 in `arena_wpos` only where it takes the last request. -/
private theorem Accounted.recv_resets (accounted : Accounted s m)
    (nonempty : m.u64 .hdrReqTail ≠ m.u64 .hdrReqHead)
    (reset : .w32 .hdrArenaWpos 0 ∈ recvWrites s m) : queued m = 1 := by
  obtain ⟨n, count⟩ := exists_queued_succ nonempty
  have enough := accounted.enough nonempty
  unfold recvWrites releaseWrites at reset
  dsimp only at reset
  rw [if_pos (UInt32.le_iff_toNat_le.mpr enough)] at reset
  split at reset
  · next zero =>
    have zero := congrArg UInt32.toNat zero
    rw [UInt32.toNat_sub_of_le _ _ (UInt32.le_iff_toNat_le.mpr enough), headSkip_toNat,
      accounted.used, charged_succ count, Nat.add_sub_cancel_left, UInt32.toNat_zero] at zero
    -- a second request would still be charged
    cases n with
    | zero => exact count
    | succ n =>
      rw [List.range_succ_eq_map, List.map_cons, List.sum_cons, Nat.zero_add] at zero
      have := accounted.charges 1 (by omega)
      omega
  · simp at reset

theorem Accounted.exact (accounted : Accounted s m) : ExactAccounts s m where
  used := accounted.used
  empty_iff := accounted.used_eq_zero
  wpos := fun empty => accounted.idle (queued_eq_zero.mpr empty)
  covers := fun nonempty => UInt32.le_iff_toNat_le.mpr (accounted.enough nonempty)
  resets := by
    intro c e w valid run reset
    obtain ⟨e', ws, run', called⟩ := accounted.runs valid
    rw [run'] at run
    obtain ⟨-, rfl⟩ := Prod.mk.inj (Option.some.inj run)
    rw [World.extend_writes, List.nil_append] at reset
    cases called with
    | send short outcome => exact queued_eq_zero.mpr (send_resets outcome reset)
    | empty empty => cases List.mem_singleton.mp reset
    | recv nonempty => exact accounted.recv_resets nonempty reset

/-- The accounts of the arena are exact after any sequence of calls on a fresh
queue. -/
theorem arena_accounts_exact (ok : s.QueueOk) (fresh : FreshQueue m) {calls : List QueueCall}
    (valid : ∀ c ∈ calls, c.Ok s) :
    ∃ m', Runs.run (callStep s) m calls = some m' ∧ ExactAccounts s m' := by
  obtain ⟨m', run, accounted⟩ := runs_accounted ok valid
    (FreshQueue.accounted fresh.counters fresh.wpos fresh.used)
  exact ⟨m', run, accounted.exact⟩

/-- The counters wrap between these sends, and one request stays queued. -/
theorem arena_accounts_exact_wrapping :
    ∃ m', Runs.run (callStep tinyShm)
        (freshMem (0 - 1)) [.send ⟨[1], 0, 1⟩, .send ⟨[2], 0, 1⟩, .recv] = some m' ∧
      ExactAccounts tinyShm m' :=
  arena_accounts_exact (by decide) (freshMem_fresh _) (by decide)

/-! ## Exact arithmetic -/

/-- A successful `writeArenaLocked` of `len` bytes computed what it would over the
natural numbers: the charge, the write position and `arena_used`. -/
structure WriteExact (s : Shm) (m : Mem) (len : Nat) (off skip : UInt32) (m' : Mem) : Prop where
  charge : skip.toNat = allocate len ∨
    (off = 0 ∧ skip.toNat = allocate len + (s.reqArenaCap.toNat - (m.u32 .hdrArenaWpos).toNat))
  wpos : (m'.u32 .hdrArenaWpos).toNat = off.toNat + allocate len
  used : (m'.u32 .hdrArenaUsed).toNat = (m.u32 .hdrArenaUsed).toNat + skip.toNat ∨
    (m.u64 .hdrReqTail = m.u64 .hdrReqHead ∧ (m'.u32 .hdrArenaUsed).toNat = skip.toNat)

/-- The arena words are in range and nothing that `writeArenaLocked` computes from
them wraps: the subtraction of `arena_wpos`, the rounding, the conversion of the
charge and the addition to `arena_used`. -/
structure NoWrap (s : Shm) (m : Mem) : Prop where
  wpos : m.u32 .hdrArenaWpos ≤ s.reqArenaCap
  used : m.u32 .hdrArenaUsed ≤ s.reqArenaCap
  subtracts : (s.reqArenaCap.toUInt64 - (m.u32 .hdrArenaWpos).toUInt64).toNat +
    (m.u32 .hdrArenaWpos).toNat = s.reqArenaCap.toNat
  rounds : ∀ data : List UInt8, Short data →
    (arenaAlloc (UInt32.ofNat data.length)).toNat = allocate data.length
  writes : ∀ data off skip w, Short data →
    (writeArenaLocked s data).run m = some (some (off, skip), w) →
      WriteExact s m data.length off skip w.mem

/-- An empty queue is handed data that fits the arena only before it is rounded
up. -/
def Overshoots (s : Shm) (m : Mem) : QueueCall → Prop
  | .send r => m.u64 .hdrReqTail = m.u64 .hdrReqHead ∧
      r.data.length ≤ s.reqArenaCap.toNat ∧ s.reqArenaCap.toNat < allocate r.data.length
  | .recv => False

instance Overshoots.decidable (s : Shm) (m : Mem) : ∀ c, Decidable (Overshoots s m c)
  | .send r => inferInstanceAs (Decidable (m.u64 .hdrReqTail = m.u64 .hdrReqHead ∧
      r.data.length ≤ s.reqArenaCap.toNat ∧ s.reqArenaCap.toNat < allocate r.data.length))
  | .recv => inferInstanceAs (Decidable False)

/-- A capacity that is a multiple of 8 leaves room to round up. -/
theorem not_overshoots_of_dvd (pos : 0 < s.reqArenaCap.toNat) (multiple : 8 ∣ s.reqArenaCap.toNat)
    (m : Mem) (c : QueueCall) : ¬ Overshoots s m c := by
  cases c with
  | recv => exact id
  | send r =>
    rintro ⟨-, room, beyond⟩
    unfold allocate at beyond
    split at beyond <;> omega

/-- Words in range make the arithmetic exact. -/
theorem NoWrap.of_range (wpos : m.u32 .hdrArenaWpos ≤ s.reqArenaCap)
    (used : m.u32 .hdrArenaUsed ≤ s.reqArenaCap) : NoWrap s m where
  wpos := wpos
  used := used
  subtracts := by
    have range := UInt32.le_iff_toNat_le.mp wpos
    rw [UInt64.toNat_sub_of_le, UInt32.toNat_toUInt64, UInt32.toNat_toUInt64]
    · exact Nat.sub_add_cancel range
    · rwa [UInt64.le_iff_toNat_le, UInt32.toNat_toUInt64, UInt32.toNat_toUInt64]
  rounds := fun data short => arenaAlloc_toNat short
  writes := by
    intro data off skip w short run
    have range := UInt32.le_iff_toNat_le.mp wpos
    obtain ⟨result, ws, run', wrote⟩ :=
      writeArenaLocked_run (s := s) short ⟨m, []⟩ (Nat.lt_of_le_of_lt range (by omega))
    rw [Exec.run, run'] at run
    obtain ⟨rfl, rfl⟩ := Prod.mk.inj (Option.some.inj run)
    cases wrote with
    | @wrote off skip base reset placed =>
      have effect := arena_effect placed
      have offLt := placed.off_lt
      have usedLt := placed.used_lt
      have offEq : (UInt32.ofNat off).toNat = off := by
        rw [UInt32.toNat_ofNat', Nat.mod_eq_of_lt (by omega)]
      have skipEq : (UInt32.ofNat skip).toNat = skip := by
        rw [UInt32.toNat_ofNat', Nat.mod_eq_of_lt (by omega)]
      constructor
      · rw [skipEq]
        rcases CircularBuffer.place_cases placed.placed with h | ⟨-, rfl, charge, -⟩ | h
        · exact .inl h.2.2.1
        · have charge : skip = allocate data.length + s.reqArenaCap.toNat -
              (m.u32 .hdrArenaWpos).toNat := charge
          exact .inr ⟨rfl, by omega⟩
        · exact .inl h.2.2.1
      · rw [offEq]
        exact effect.wpos
      · rw [skipEq]
        have sum : (((World.extend ⟨m, []⟩ (arenaWrites data off skip base reset)).mem).u32
            .hdrArenaUsed).toNat = base + skip := effect.used
        rcases placed.reset_eq with ⟨-, rfl⟩ | ⟨-, rfl, empty⟩
        · exact .inl sum
        · exact .inr ⟨empty, by rw [sum, Nat.zero_add]⟩

/-- Stores that leave the two arena words alone. -/
private theorem NoWrap.congr {m' : Mem} (noWrap : NoWrap s m)
    (wpos : m'.u32 .hdrArenaWpos = m.u32 .hdrArenaWpos)
    (used : m'.u32 .hdrArenaUsed = m.u32 .hdrArenaUsed) : NoWrap s m' :=
  .of_range (by rw [wpos]; exact noWrap.wpos) (by rw [used]; exact noWrap.used)

/-- A receive takes nothing out of range. -/
private theorem NoWrap.recv (noWrap : NoWrap s m) : NoWrap s (m.writeAll (recvWrites s m)) := by
  unfold recvWrites releaseWrites
  dsimp only
  generalize m.u32 (.reqSlotArenaSkip (ringIndex s (m.u64 .hdrReqHead))) = skip
  have less : (if m.u32 .hdrArenaUsed ≥ skip then m.u32 .hdrArenaUsed - skip else 0) ≤
      m.u32 .hdrArenaUsed := by
    split
    · next enough =>
      rw [UInt32.le_iff_toNat_le, UInt32.toNat_sub_of_le _ _ enough]
      exact Nat.sub_le _ _
    · exact UInt32.zero_le
  generalize (if m.u32 .hdrArenaUsed ≥ skip then m.u32 .hdrArenaUsed - skip else 0) = used at less
  have range := UInt32.le_trans less noWrap.used
  split
  · exact .of_range (by simp) (by simpa using range)
  · exact .of_range (by simpa using noWrap.wpos) (by simpa using range)

/-- An empty queue refuses only what is longer than the arena. -/
theorem Sent.of_empty (power : Words.PowerOfTwo s.reqCap)
    (empty : m.u64 .hdrReqTail = m.u64 .hdrReqHead) (room : r.data.length ≤ s.reqArenaCap.toNat)
    (outcome : Sent s m r sent ws) : sent = true := by
  cases outcome with
  | queueFull full =>
    rw [empty, UInt64.sub_self, UInt64.le_iff_toNat_le, UInt32.toNat_toUInt64] at full
    exact absurd power.pos (Nat.not_lt.mpr full)
  | refused space refused =>
    cases refused with
    | tooLong long => exact absurd room (Nat.not_le.mpr long)
    | full room refused =>
      rw [decide_eq_true empty] at refused
      exact absurd refused (CircularBuffer.place_empty _ _ _ _)
  | sent space placed => rfl

/-- A call that overshoots leaves the rounded length in both words. -/
theorem Called.overshoots (power : Words.PowerOfTwo s.reqCap)
    (noWrap : NoWrap s m) (called : Called s m (.send r) ws) (beyond : Overshoots s m (.send r)) :
    ((m.writeAll ws).u32 .hdrArenaWpos).toNat = allocate r.data.length ∧
      ((m.writeAll ws).u32 .hdrArenaUsed).toNat = allocate r.data.length := by
  obtain ⟨empty, room, beyond⟩ := beyond
  have wposLe := UInt32.le_iff_toNat_le.mp noWrap.wpos
  cases called with
  | send short outcome =>
    obtain rfl := outcome.of_empty power empty room
    cases outcome with
    | sent space placed =>
      have effect := send_effect placed
      have wpos := effect.wpos
      have used := effect.used
      rcases CircularBuffer.place_cases placed.placed with h | h | h <;> omega

/-- Any other call leaves both words in range. -/
theorem NoWrap.inside (noWrap : NoWrap s m) (called : Called s m c ws)
    (inside : ¬ Overshoots s m c) : NoWrap s (m.writeAll ws) := by
  have wposLe := UInt32.le_iff_toNat_le.mp noWrap.wpos
  cases called with
  | empty empty => exact noWrap.congr (by simp) (by simp)
  | recv nonempty => exact noWrap.recv
  | @send r sent ws short outcome =>
    cases outcome with
    | queueFull full => exact noWrap.congr rfl rfl
    | refused space refused =>
      cases refused with
      | tooLong long => exact noWrap
      | full room refused => exact noWrap.congr rfl rfl
    | @sent off skip base reset space placed =>
      have effect := send_effect placed
      have wpos := effect.wpos
      have used := effect.used
      have room := placed.room
      have range : off + allocate r.data.length ≤ s.reqArenaCap.toNat ∧
          base + skip ≤ s.reqArenaCap.toNat := by
        rcases CircularBuffer.place_cases placed.placed with h | h | ⟨empty, h⟩
        · omega
        · omega
        · have fits : ¬ s.reqArenaCap.toNat < allocate r.data.length := fun beyond =>
            inside ⟨of_decide_eq_true empty, room, beyond⟩
          omega
      rw [← wpos, ← used] at range
      exact .of_range (UInt32.le_iff_toNat_le.mpr range.1) (UInt32.le_iff_toNat_le.mpr range.2)

/-- The words stay in range exactly when the call does not overshoot. -/
theorem NoWrap.called (power : Words.PowerOfTwo s.reqCap) (noWrap : NoWrap s m)
    (called : Called s m c ws) : NoWrap s (m.writeAll ws) ↔ ¬ Overshoots s m c := by
  constructor
  · intro kept beyond
    cases c with
    | recv => exact beyond
    | send r =>
      have wpos := (called.overshoots power noWrap beyond).1
      have := UInt32.le_iff_toNat_le.mp kept.wpos
      have := beyond.2.2
      omega
  · exact noWrap.inside called

/-- A call that does not overshoot keeps the accounts, also in an arena without
room. -/
private theorem Accounted.inside (power : Words.PowerOfTwo s.reqCap) (accounted : Accounted s m)
    (noWrap : NoWrap s m) (called : Called s m c ws) (inside : ¬ Overshoots s m c) :
    Accounted s (m.writeAll ws) := by
  by_cases pos : 0 < s.reqArenaCap.toNat
  · exact accounted.called ⟨power, pos⟩ called
  · have usedLe := UInt32.le_iff_toNat_le.mp noWrap.used
    have unused : m.u32 .hdrArenaUsed = 0 := UInt32.toNat_inj.mp (by
      rw [UInt32.toNat_zero]
      omega)
    have empty := accounted.used_eq_zero.mp unused
    cases called with
    | empty empty => exact accounted.idles
    | recv nonempty => exact absurd empty nonempty
    | @send r sent ws short outcome =>
      cases outcome with
      | queueFull full => exact accounted.congr (fun _ _ => rfl) (by simp) (by simp)
      | refused space refused =>
        cases refused with
        | tooLong long => exact accounted
        | full room refused => exact accounted.congr (fun _ _ => rfl) (by simp) (by simp)
      | sent space placed =>
        have := (le_allocate r.data.length).2
        exact absurd ⟨empty, placed.room, by omega⟩ inside

/-- The arena arithmetic never wraps in a run exactly when no call of it overshoots,
whatever the capacity is. -/
theorem arena_arithmetic_iff (power : Words.PowerOfTwo s.reqCap) (fresh : FreshQueue m)
    {calls : List QueueCall} (valid : ∀ c ∈ calls, c.Ok s) :
    (∀ before, before <+: calls → ∃ m', Runs.run (callStep s) m before = some m' ∧ NoWrap s m') ↔
      Runs.Always (callStep s) (fun m c => ¬ Overshoots s m c) m calls := by
  refine Runs.always_iff (NoWrap s) (Accounted s) (QueueCall.Ok s) ?_ valid
    (FreshQueue.accounted fresh.counters fresh.wpos fresh.used) ?_
  · intro m c accounted noWrap valid
    obtain ⟨e, ws, run, called⟩ := accounted.runs valid
    refine ⟨m.writeAll ws, ?_, noWrap.called power called, accounted.inside power noWrap called⟩
    rw [callStep, run]
    rfl
  · exact .of_range (by rw [fresh.wpos]; exact UInt32.zero_le)
      (by rw [fresh.used]; exact UInt32.zero_le)

/-- Two short requests in an arena of 4100 bytes, and a receive. -/
theorem arena_arithmetic_iff_twoSends :
    ∃ m', Runs.run (callStep tinyShm) (freshMem 0)
        [.send ⟨[1], 0, 1⟩, .send ⟨[2, 3], 0, 1⟩, .recv] = some m' ∧ NoWrap tinyShm m' := by
  have inside : Runs.Always (callStep tinyShm) (fun m c => ¬ Overshoots tinyShm m c) (freshMem 0)
      [.send ⟨[1], 0, 1⟩, .send ⟨[2, 3], 0, 1⟩, .recv] := by decide +kernel
  have never := (arena_arithmetic_iff (by decide) (freshMem_fresh 0) (by decide)).mpr inside
  exact never _ (List.prefix_refl _)

/-- A request of 4100 bytes, rounded up to 4104, overshoots an arena of 4100: both
words end up beyond the capacity, and the next subtraction wraps. -/
theorem full_arena_overshoots :
    ∃ m', Runs.run (callStep tinyShm) (freshMem 0) [.send ⟨List.replicate 4100 0, 0, 1⟩] = some m' ∧
      m'.u32 .hdrArenaWpos = 4104 ∧ m'.u32 .hdrArenaUsed = 4104 ∧
      (tinyShm.reqArenaCap.toUInt64 - (m'.u32 .hdrArenaWpos).toUInt64).toNat = 2 ^ 64 - 4 ∧
      ¬ NoWrap tinyShm m' := by
  have short : Short (List.replicate 4100 (0 : UInt8)) := by
    rw [Short, List.length_replicate]
    decide
  have beyond : Overshoots tinyShm (freshMem 0) (.send ⟨List.replicate 4100 0, 0, 1⟩) := by
    rw [Overshoots, List.length_replicate]
    decide
  have inRange : NoWrap tinyShm (freshMem 0) := .of_range (by decide) (by decide)
  obtain ⟨e, ws, run, called⟩ := Accounted.runs (s := tinyShm)
    (c := .send ⟨List.replicate 4100 0, 0, 1⟩)
    (FreshQueue.accounted (freshMem_fresh 0).counters rfl rfl) ⟨short, by decide⟩
  obtain ⟨wpos, used⟩ := called.overshoots (by decide) inRange beyond
  have size : allocate (List.replicate 4100 (0 : UInt8)).length = (4104 : UInt32).toNat := by
    rw [List.length_replicate]
    decide
  have wpos := UInt32.toNat_inj.mp (wpos.trans size)
  have used := UInt32.toNat_inj.mp (used.trans size)
  refine ⟨_, by rw [Runs.run, callStep, run]; rfl, wpos, used, ?_, fun kept => ?_⟩
  · rw [wpos]
    decide
  · exact absurd kept.wpos (by rw [wpos]; decide)

end ReqRep
