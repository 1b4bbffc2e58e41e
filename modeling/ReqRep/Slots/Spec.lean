import ReqRep.Slots.Ops

/-!
# What the slot operations store

The result of each operation of `Slots.Ops` run alone, and its stores.
-/

namespace ReqRep

open Exec

/-! ## Acquiring -/

/-- The generation after `takeSlot`: the next one, skipping 0. -/
def nextGen (g : UInt32) : UInt32 := if g + 1 = 0 then g + 1 + 1 else g + 1

theorem nextGen_ne_zero (g : UInt32) : nextGen g ≠ 0 := by
  unfold nextGen
  split
  · next zero =>
    rw [zero]
    decide
  · assumption

/-- The stores of `takeSlot` at generation `g`. -/
def takeWrites (mypid slot g : UInt32) : List Write :=
  .w32 (.respSlotOwnerPid slot) mypid :: .w32 (.respSlotGeneration slot) (g + 1) ::
    if g + 1 = 0 then [.w32 (.respSlotGeneration slot) (g + 1 + 1)] else []

theorem takeSlot_run (mypid slot : UInt32) (w : World) :
    takeSlot mypid slot w =
      some (nextGen (w.mem.u32 (.respSlotGeneration slot)),
        w.extend (takeWrites mypid slot (w.mem.u32 (.respSlotGeneration slot)))) := by
  unfold takeSlot nextGen takeWrites
  simp only [bind_apply, store32_apply, add32_apply, Option.bind_some, ite_apply', pure_apply,
    World.extend_extend, World.extend_mem, Mem.writeAll_cons, Mem.writeAll_nil, Mem.write_w32,
    Mem.set32_u32, reduceCtorEq, if_false, List.singleton_append]
  split
  · simp
  · rfl

/-- The slot that iteration `i` of the first pass looks at. -/
def scanSlot (s : Shm) (hint i : UInt32) : UInt32 := (hint + i) % s.respSlots

/-- The stores of a successful first pass. -/
def acquireFreeWrites (s : Shm) (m : Mem) (mypid slot : UInt32) : List Write :=
  .w32 (.respSlotState slot) layoutRespAcquired ::
    (takeWrites mypid slot (m.u32 (.respSlotGeneration slot)) ++
      [.w32 .hdrRespHint ((slot + 1) % s.respSlots)])

/-- The first pass takes the first FREE slot that it looks at. -/
theorem acquireFree_run (s : Shm) (mypid hint : UInt32) (k : Nat) (i : UInt32) (w : World) :
    (∃ j < k, w.mem.u32 (.respSlotState (scanSlot s hint (i + UInt32.ofNat j))) = layoutRespFree ∧
      (∀ j' < j, w.mem.u32 (.respSlotState (scanSlot s hint (i + UInt32.ofNat j'))) ≠
        layoutRespFree) ∧
      acquireFree s mypid hint k i w =
        let slot := scanSlot s hint (i + UInt32.ofNat j)
        some (some (slot, nextGen (w.mem.u32 (.respSlotGeneration slot))),
          w.extend (acquireFreeWrites s w.mem mypid slot))) ∨
    ((∀ j < k, w.mem.u32 (.respSlotState (scanSlot s hint (i + UInt32.ofNat j))) ≠
        layoutRespFree) ∧
      acquireFree s mypid hint k i w = some (none, w)) := by
  induction k generalizing i with
  | zero => exact .inr ⟨fun j bound => absurd bound (Nat.not_lt_zero j), rfl⟩
  | succ k ih =>
    have first : i + UInt32.ofNat 0 = i := by simp
    have later : ∀ j, i + UInt32.ofNat (j + 1) = i + 1 + UInt32.ofNat j := by
      intro j
      rw [UInt32.ofNat_add, UInt32.add_comm (UInt32.ofNat j), ← UInt32.add_assoc]
      rfl
    by_cases free : w.mem.u32 (.respSlotState (scanSlot s hint i)) = layoutRespFree
    · refine .inl ⟨0, Nat.succ_pos k, by rwa [first],
        fun j earlier => absurd earlier (Nat.not_lt_zero j), ?_⟩
      rw [first]
      rw [scanSlot] at free
      simp only [acquireFree, bind_apply, cas32_apply, free, if_true, Option.bind_some, ite_apply',
        takeSlot_run, store32_apply, pure_apply, World.extend_extend, World.extend_mem,
        acquireFreeWrites, scanSlot]
      simp
    · have step : acquireFree s mypid hint (k + 1) i w = acquireFree s mypid hint k (i + 1) w := by
        rw [scanSlot] at free
        simp [acquireFree, free]
      rw [step]
      rcases ih (i + 1) with ⟨j, bound, found, taken, run⟩ | ⟨none, run⟩
      · refine .inl ⟨j + 1, Nat.succ_lt_succ bound, ?_⟩
        rw [later]
        refine ⟨found, fun j' earlier => ?_, run⟩
        cases j' with
        | zero => rwa [first]
        | succ j' =>
          rw [later]
          exact taken j' (Nat.lt_of_succ_lt_succ earlier)
      · refine .inr ⟨?_, run⟩
        intro j bound
        cases j with
        | zero => rwa [first]
        | succ j =>
          rw [later]
          exact none j (Nat.lt_of_succ_lt_succ bound)

/-- A slot that the second pass takes back. -/
def Stale (m : Mem) (pidAlive : UInt32 → Bool) (i : UInt32) : Prop :=
  (m.u32 (.respSlotState i) = layoutRespAcquired ∨ m.u32 (.respSlotState i) = layoutRespReady) ∧
    m.u32 (.respSlotOwnerPid i) ≠ 0 ∧ pidAlive (m.u32 (.respSlotOwnerPid i)) = false

instance (m : Mem) (pidAlive : UInt32 → Bool) (i : UInt32) : Decidable (Stale m pidAlive i) :=
  inferInstanceAs (Decidable (_ ∧ _))

/-- The stores of a successful second pass. -/
def acquireStaleWrites (m : Mem) (mypid slot : UInt32) : List Write :=
  .w32 (.respSlotOwnerPid slot) 0 :: .w32 (.respSlotState slot) layoutRespFree ::
    .w32 .hdrStatRecoveries (m.u32 .hdrStatRecoveries + 1) ::
    .w32 (.respSlotState slot) layoutRespAcquired ::
    takeWrites mypid slot (m.u32 (.respSlotGeneration slot))

/-- The second pass takes the first stale slot. -/
theorem acquireStale_run (s : Shm) (mypid : UInt32) (pidAlive : UInt32 → Bool) (k : Nat)
    (i : UInt32) (w : World) :
    (∃ j < k, Stale w.mem pidAlive (i + UInt32.ofNat j) ∧
      acquireStale s mypid pidAlive k i w =
        let slot := i + UInt32.ofNat j
        some (some (slot, nextGen (w.mem.u32 (.respSlotGeneration slot))),
          w.extend (acquireStaleWrites w.mem mypid slot))) ∨
    ((∀ j < k, ¬ Stale w.mem pidAlive (i + UInt32.ofNat j)) ∧
      acquireStale s mypid pidAlive k i w = some (none, w)) := by
  induction k generalizing i with
  | zero => exact .inr ⟨fun j bound => absurd bound (Nat.not_lt_zero j), rfl⟩
  | succ k ih =>
    have first : i + UInt32.ofNat 0 = i := by simp
    have later : ∀ j, i + UInt32.ofNat (j + 1) = i + 1 + UInt32.ofNat j := by
      intro j
      rw [UInt32.ofNat_add, UInt32.add_comm (UInt32.ofNat j), ← UInt32.add_assoc]
      rfl
    by_cases stale : Stale w.mem pidAlive i
    · refine .inl ⟨0, Nat.succ_pos k, by rwa [first], ?_⟩
      rw [first]
      obtain ⟨state, owner, dead⟩ := stale
      have taken : ¬ (w.mem.u32 (.respSlotState i) ≠ layoutRespAcquired ∧
          w.mem.u32 (.respSlotState i) ≠ layoutRespReady) := by
        rcases state with state | state <;> simp [state]
      have skip : ¬ (w.mem.u32 (.respSlotOwnerPid i) = 0 ∨
          pidAlive (w.mem.u32 (.respSlotOwnerPid i)) = true) := by
        simp [owner, dead]
      simp only [acquireStale, bind_apply, load32_apply, Option.bind_some, ite_apply', if_neg taken,
        if_neg skip, store32_apply, cas32_apply, add32_apply, takeSlot_run, pure_apply,
        World.extend_extend, World.extend_mem, Mem.writeAll_cons, Mem.writeAll_nil, Mem.write_w32,
        Mem.set32_u32, reduceCtorEq, if_false, if_true, acquireStaleWrites, List.cons_append,
        List.nil_append]
    · have step : acquireStale s mypid pidAlive (k + 1) i w =
          acquireStale s mypid pidAlive k (i + 1) w := by
        simp only [acquireStale, bind_apply, load32_apply, Option.bind_some, ite_apply']
        split
        · rfl
        · next taken =>
          rw [if_pos]
          simp only [Stale] at stale
          by_cases zero : w.mem.u32 (.respSlotOwnerPid i) = 0
          · exact .inl zero
          · refine .inr ?_
            by_contra dead
            refine stale ⟨?_, zero, by simpa using dead⟩
            by_contra neither
            exact taken (not_or.mp neither)
      rw [step]
      rcases ih (i + 1) with ⟨j, bound, found, run⟩ | ⟨none, run⟩
      · refine .inl ⟨j + 1, Nat.succ_lt_succ bound, ?_⟩
        rw [later]
        exact ⟨found, run⟩
      · refine .inr ⟨?_, run⟩
        intro j bound
        cases j with
        | zero => rwa [first]
        | succ j =>
          rw [later]
          exact none j (Nat.lt_of_succ_lt_succ bound)

/-- The result and the stores of `acquireRespSlot`. -/
inductive Acquired (s : Shm) (m : Mem) (mypid : UInt32) (pidAlive : UInt32 → Bool) :
    Option (UInt32 × UInt32) → List Write → Prop where
  | free {slot : UInt32} (bound : slot < s.respSlots)
      (free : m.u32 (.respSlotState slot) = layoutRespFree) :
      Acquired s m mypid pidAlive (some (slot, nextGen (m.u32 (.respSlotGeneration slot))))
        (acquireFreeWrites s m mypid slot)
  | stale {slot : UInt32} (bound : slot < s.respSlots) (stale : Stale m pidAlive slot) :
      Acquired s m mypid pidAlive (some (slot, nextGen (m.u32 (.respSlotGeneration slot))))
        (acquireStaleWrites m mypid slot)
  | none : Acquired s m mypid pidAlive none []

theorem scanSlot_lt {s : Shm} (pos : 0 < s.respSlots.toNat) (hint i : UInt32) :
    scanSlot s hint i < s.respSlots := by
  rw [UInt32.lt_iff_toNat_lt, scanSlot, UInt32.toNat_mod]
  exact Nat.mod_lt _ pos

/-- `acquireRespSlot` alone: what it returns and what it writes. -/
theorem acquireRespSlot_run (s : Shm) (mypid : UInt32) (pidAlive : UInt32 → Bool) (w : World) :
    ∃ r ws, acquireRespSlot s mypid pidAlive w = some (r, w.extend ws) ∧
      Acquired s w.mem mypid pidAlive r ws := by
  unfold acquireRespSlot
  simp only [bind_apply, load32_apply, Option.bind_some]
  rcases acquireFree_run s mypid (w.mem.u32 .hdrRespHint) s.respSlots.toNat 0 w with
    ⟨j, bound, found, -, run⟩ | ⟨-, run⟩
  · rw [run]
    exact ⟨_, _, rfl, .free (scanSlot_lt (Nat.zero_lt_of_lt bound) _ _) found⟩
  · rw [run]
    simp only [Option.bind_some]
    rcases acquireStale_run s mypid pidAlive s.respSlots.toNat 0 w with
      ⟨j, bound, found, run⟩ | ⟨-, run⟩
    · refine ⟨_, _, run, .stale ?_ found⟩
      have := s.respSlots.toNat_lt
      rw [UInt32.lt_iff_toNat_lt, UInt32.zero_add, UInt32.toNat_ofNat', Nat.mod_eq_of_lt (by omega)]
      exact bound
    · exact ⟨_, _, by rw [run, World.extend_nil], .none⟩

/-! ## Releasing -/

/-- The stores of `releaseRespSlot`. -/
def releaseSlotWrites (m : Mem) (idx : UInt32) : List Write :=
  [.w32 (.respSlotOwnerPid idx) 0, .w32 (.respSlotState idx) layoutRespFree,
   .w32 .hdrSlotFutex (m.u32 .hdrSlotFutex + 1)]

theorem releaseRespSlot_run (idx : UInt32) (w : World) :
    releaseRespSlot idx w = some ((), w.extend (releaseSlotWrites w.mem idx)) := by
  simp [releaseRespSlot, wakeSlotWaiters, releaseSlotWrites]

/-! ## Responding, reading and giving up -/

/-- The id names the request that holds its slot: the slot is taken and has its
generation. -/
structure Open (m : Mem) (id : UInt64) : Prop where
  gen : m.u32 (.respSlotGeneration (idSlot id)) = idGen id
  taken : m.u32 (.respSlotState (idSlot id)) ≠ layoutRespFree

instance (m : Mem) (id : UInt64) : Decidable (Open m id) :=
  decidable_of_iff (m.u32 (.respSlotGeneration (idSlot id)) = idGen id ∧
    m.u32 (.respSlotState (idSlot id)) ≠ layoutRespFree)
    ⟨fun h => ⟨h.1, h.2⟩, fun h => ⟨h.gen, h.taken⟩⟩

/-- The stores of a successful `writeResponse`. -/
def replyWrites (m : Mem) (slot : UInt32) (response : List UInt8) : List Write :=
  copyWrites (.respSlotData slot) 0 response ++
    [.w32 (.respSlotLen slot) (UInt32.ofNat response.length), .w32 (.respSlotFlags slot) 0,
     .w32 (.respSlotState slot) layoutRespReady,
     .w64 .hdrStatReplies (m.u64 .hdrStatReplies + 1)]

/-- The result and the stores of `writeResponse`. -/
inductive Replied (s : Shm) (m : Mem) (id : UInt64) (response : List UInt8) :
    Except ReqRepError Unit → List Write → Prop where
  | refused (e : ReqRepError) : Replied s m id response (.error e) []
  | replied (fits : response.length ≤ s.respDataMax.toNat)
      (acquired : m.u32 (.respSlotState (idSlot id)) = layoutRespAcquired)
      (gen : m.u32 (.respSlotGeneration (idSlot id)) = idGen id) :
      Replied s m id response (.ok ()) (replyWrites m (idSlot id) response)

/-- `writeResponse` alone: what it returns and what it writes. -/
theorem writeResponse_run (s : Shm) (id : UInt64) (response : List UInt8) (w : World) :
    ∃ r ws, writeResponse s id response w = some (r, w.extend ws) ∧
      Replied s w.mem id response r ws := by
  unfold writeResponse
  simp only [ite_apply', pure_apply, bind_apply, load32_apply, Option.bind_some]
  split
  · exact ⟨_, [], by rw [World.extend_nil], .refused .errStaleSlot⟩
  split
  · exact ⟨_, [], by rw [World.extend_nil], .refused .errRespTooLong⟩
  next fits =>
  split
  · exact ⟨_, [], by rw [World.extend_nil], .refused .errStaleSlot⟩
  next acquired =>
  split
  · exact ⟨_, [], by rw [World.extend_nil], .refused .errStaleSlot⟩
  next gen =>
  have acquired := not_not.mp acquired
  refine ⟨.ok (), _, ?_, .replied (Nat.not_lt.mp fits) acquired (not_not.mp gen)⟩
  simp [acquired, replyWrites, Mem.writeAll_append]

/-- The result and the stores of `readAndRelease`: bytes are as many as the
length field says. -/
theorem readAndRelease_run (s : Shm) (slot : UInt32) (w : World) :
    ∃ r, readAndRelease s slot w = some (r, w.extend (releaseSlotWrites w.mem slot)) ∧
      ∀ bytes, r = .ok bytes → bytes =
        (List.range (w.mem.u32 (.respSlotLen slot)).toNat).map fun j =>
          w.mem.u8 (.respSlotData slot j) := by
  unfold readAndRelease
  simp only [bind_apply, load32_apply, Option.bind_some, ite_apply', releaseRespSlot_run,
    pure_apply, copyOut_apply, Nat.zero_add]
  split
  · exact ⟨_, rfl, nofun⟩
  · refine ⟨_, rfl, fun bytes same => ?_⟩
    injection same with same
    exact same.symm

/-- The result and the stores of one poll of `waitResponse`. -/
inductive Polled (m : Mem) (id : UInt64) :
    Option (Except ReqRepError (List UInt8)) → List Write → Prop where
  | stale (gen : m.u32 (.respSlotGeneration (idSlot id)) ≠ idGen id) :
      Polled m id (some (.error .errStaleSlot)) []
  | notReady : Polled m id none []
  | read {r : Except ReqRepError (List UInt8)}
      (gen : m.u32 (.respSlotGeneration (idSlot id)) = idGen id)
      (ready : m.u32 (.respSlotState (idSlot id)) = layoutRespReady)
      (bytes : ∀ bytes, r = .ok bytes → bytes =
        (List.range (m.u32 (.respSlotLen (idSlot id))).toNat).map fun j =>
          m.u8 (.respSlotData (idSlot id) j)) :
      Polled m id (some r) (releaseSlotWrites m (idSlot id))

/-- One look of `waitResponse`, alone. -/
theorem pollResponse_run (s : Shm) (id : UInt64) (w : World) :
    ∃ r ws, pollResponse s id w = some (r, w.extend ws) ∧ Polled w.mem id r ws := by
  unfold pollResponse
  simp only [bind_apply, load32_apply, Option.bind_some, ite_apply', pure_apply]
  split
  · next gen => exact ⟨_, [], by rw [World.extend_nil], .stale gen⟩
  next gen =>
  split
  · next ready =>
    obtain ⟨r, run, bytes⟩ := readAndRelease_run s (idSlot id) w
    rw [run]
    exact ⟨_, _, rfl, .read (not_not.mp gen) ready bytes⟩
  · exact ⟨_, [], by rw [World.extend_nil], .notReady⟩

/-- The stores of a `cancelRequest` whose CAS succeeds. -/
def cancelWrites (m : Mem) (slot : UInt32) : List Write :=
  [.w32 (.respSlotState slot) layoutRespFree, .w32 (.respSlotOwnerPid slot) 0,
   .w32 (.respSlotGeneration slot) (m.u32 (.respSlotGeneration slot) + 1),
   .w32 .hdrSlotFutex (m.u32 .hdrSlotFutex + 1)]

/-- `cancelRequest` alone: nothing, or what it does to an ACQUIRED slot of its id. -/
theorem cancelRequest_run (s : Shm) (id : UInt64) (w : World) :
    cancelRequest s id w = some ((), w) ∨
      (Open w.mem id ∧ w.mem.u32 (.respSlotState (idSlot id)) = layoutRespAcquired ∧
        cancelRequest s id w = some ((), w.extend (cancelWrites w.mem (idSlot id)))) := by
  unfold cancelRequest
  simp only [bind_apply, load32_apply, Option.bind_some, ite_apply', pure_apply, cas32_apply]
  split
  · exact .inl rfl
  split
  · exact .inl rfl
  next gen =>
  split
  · next acquired =>
    refine .inr ⟨⟨not_not.mp gen, by rw [acquired]; decide⟩, acquired, ?_⟩
    simp [wakeSlotWaiters, cancelWrites]
  · exact .inl rfl

/-- `tryDrainResponse` alone: nothing, or a release of a READY slot of its id. -/
theorem tryDrainResponse_run (s : Shm) (id : UInt64) (w : World) :
    tryDrainResponse s id w = some ((), w) ∨
      (Open w.mem id ∧ w.mem.u32 (.respSlotState (idSlot id)) = layoutRespReady ∧
        tryDrainResponse s id w = some ((), w.extend (releaseSlotWrites w.mem (idSlot id)))) := by
  unfold tryDrainResponse
  simp only [bind_apply, load32_apply, Option.bind_some, ite_apply', pure_apply,
    releaseRespSlot_run]
  split
  · exact .inl rfl
  split
  · exact .inl rfl
  next gen =>
  split
  · exact .inl rfl
  · next ready =>
    have ready := not_not.mp ready
    exact .inr ⟨⟨not_not.mp gen, by rw [ready]; decide⟩, ready, rfl⟩

end ReqRep
