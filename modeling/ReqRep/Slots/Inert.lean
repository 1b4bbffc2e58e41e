import ReqRep.Slots.Whole

/-!
# Finished ids are dead

Whole operations, one after the other. A slot that is FREE with an unchanged
generation, or whose generation has moved on, ignores every further operation on
the old id; a READY slot keeps its response until it is read, drained or
reclaimed.
-/

namespace ReqRep

open Exec

variable {s : Shm} {i : UInt32} {m : Mem} {ws : List Write}

/-! ## Dead ids -/

/-- The id is finished, and the generation of its slot was incremented `n` times
since. -/
structure Dead (m : Mem) (id : UInt64) (n : Nat) : Prop where
  gen : m.u32 (.respSlotGeneration (idSlot id)) = idGen id + UInt32.ofNat n
  free : n = 0 → m.u32 (.respSlotState (idSlot id)) = layoutRespFree

/-- A dead id stays dead, and the operations count the increments since. -/
theorem Dead.later {id : UInt64} {n : Nat} (dead : Dead m id n)
    (tame : Tame (idSlot id) m ws) : Dead (m.writeAll ws) id (n + bumpsOn (idSlot id) ws) where
  gen := by
    rw [tame.gen, dead.gen, UInt32.ofNat_add, UInt32.add_assoc]
  free := fun none => tame.free (by omega) (dead.free (by omega))

/-- A generation less than 2^32 increments away from the id's is another one. -/
private theorem add_ofNat_ne {g : UInt32} {n : Nat} (pos : n ≠ 0) (bound : n < 2 ^ 32) :
    g + UInt32.ofNat n ≠ g := by
  intro same
  have same := congrArg UInt32.toNat same
  rw [UInt32.toNat_add, UInt32.toNat_ofNat'] at same
  have := g.toNat_lt
  omega

/-- A dead id opens nothing. -/
theorem Dead.not_open {id : UInt64} {n : Nat} (dead : Dead m id n) (bound : n < 2 ^ 32) :
    ¬ Open m id := by
  intro found
  rcases Nat.eq_zero_or_pos n with zero | pos
  · exact found.taken (dead.free zero)
  · exact add_ofNat_ne (by omega) bound (dead.gen.symm.trans found.gen)

/-- An operation that finishes an id leaves it dead. -/
theorem dead_of_finished {id : UInt64} (before : Open m id) (tame : Tame (idSlot id) m ws)
    (after : ¬ Open (m.writeAll ws) id) : Dead (m.writeAll ws) id (bumpsOn (idSlot id) ws) where
  gen := by
    rw [tame.gen, before.gen]
  free := fun none => by
    by_contra taken
    refine after ⟨?_, taken⟩
    rw [tame.gen, before.gen, none]
    simp

/-- The id is dead to every operation that takes one. -/
structure IgnoresId (s : Shm) (w : World) (id : UInt64) : Prop where
  writeResponse : ∀ response, ∃ e, writeResponse s id response w = some (.error e, w)
  cancelRequest : cancelRequest s id w = some ((), w)
  tryDrainResponse : tryDrainResponse s id w = some ((), w)

/-- Every operation ignores a dead id. -/
theorem Dead.ignored {id : UInt64} {n : Nat} {w : World} (dead : Dead w.mem id n)
    (bound : n < 2 ^ 32) : IgnoresId s w id where
  writeResponse := fun response => by
    obtain ⟨r, ws, run, replied⟩ := writeResponse_run s id response w
    cases replied with
    | refused e => exact ⟨e, by rw [run, World.extend_nil]⟩
    | replied fits acquired gen =>
      exact absurd ⟨gen, by rw [acquired]; decide⟩ (dead.not_open bound)
  cancelRequest := by
    rcases cancelRequest_run s id w with run | ⟨opened, -⟩
    · exact run
    · exact absurd opened (dead.not_open bound)
  tryDrainResponse := by
    rcases tryDrainResponse_run s id w with run | ⟨opened, -⟩
    · exact run
    · exact absurd opened (dead.not_open bound)

/-! ## Responses that wait to be read -/

/-- The response of the id is in its slot, or the id is dead. -/
inductive Holding (m : Mem) (id : UInt64) (response : List UInt8) (n : Nat) : Prop where
  | ready (gen : m.u32 (.respSlotGeneration (idSlot id)) = idGen id) (none : n = 0)
      (ready : m.u32 (.respSlotState (idSlot id)) = layoutRespReady)
      (len : (m.u32 (.respSlotLen (idSlot id))).toNat = response.length)
      (data : ∀ j (h : j < response.length), m.u8 (.respSlotData (idSlot id) j) = response[j])
  | dead (dead : Dead m id n)

theorem Holding.later {id : UInt64} {response : List UInt8} {n : Nat}
    (holding : Holding m id response n) (tame : Tame (idSlot id) m ws) :
    Holding (m.writeAll ws) id response (n + bumpsOn (idSlot id) ws) := by
  cases holding with
  | dead dead => exact .dead (dead.later tame)
  | ready gen none ready len data =>
    subst none
    have gen' := tame.gen
    rw [gen] at gen'
    rw [Nat.zero_add]
    by_cases none : bumpsOn (idSlot id) ws = 0
    · rcases tame.ready none ready with freed | ⟨kept, same⟩
      · exact .dead ⟨gen', fun _ => freed⟩
      · refine .ready (by rw [gen', none]; simp) none kept (by rw [same.len, len]) ?_
        intro j bound
        rw [same.data, data j bound]
    · exact .dead ⟨gen', fun zero => absurd zero none⟩

/-- Who gets bytes under its id gets those of the response. -/
theorem Holding.polled {id : UInt64} {response bytes : List UInt8} {n : Nat}
    (holding : Holding m id response n) (bound : n < 2 ^ 32)
    (polled : Polled m id (some (.ok bytes)) ws) : bytes = response := by
  cases polled with
  | read gen ready read =>
    cases holding with
    | dead dead => exact absurd ⟨gen, by rw [ready]; decide⟩ (dead.not_open bound)
    | ready _ _ _ len data =>
      rw [read bytes rfl, len]
      refine List.ext_getElem (by simp) ?_
      intro j _ inside
      rw [List.getElem_map, List.getElem_range, data j inside]

/-- A successful `writeResponse` puts its response into the slot. -/
theorem holding_of_replied {id : UInt64} {response : List UInt8}
    (replied : Replied s m id response (.ok ()) ws) :
    Holding (m.writeAll ws) id response 0 := by
  have small := s.respDataMax.toNat_lt
  cases replied with
  | replied fits acquired gen =>
    have inj : ∀ i j, Loc8.respSlotData (idSlot id) i = .respSlotData (idSlot id) j → i = j :=
      fun _ _ same => by
        injection same
    refine .ready ?_ rfl ?_ ?_ ?_
    · simpa [replyWrites, Mem.writeAll_append] using gen
    · simp [replyWrites, Mem.writeAll_append]
    · simp only [replyWrites, Mem.writeAll_append, Mem.writeAll_cons, Mem.writeAll_nil,
        Mem.write_w32, Mem.write_w64, Mem.set64_u32, Mem.set32_u32, reduceCtorEq, if_false, if_true,
        UInt32.toNat_ofNat']
      exact Nat.mod_eq_of_lt (by omega)
    · intro j bound
      have copied := writeAll_copyWrites inj 0 m bound
      simpa [replyWrites, Mem.writeAll_append] using copied

/-! ## What finishes an id -/

private theorem not_open_of_free {id : UInt64}
    (free : m.u32 (.respSlotState (idSlot id)) = layoutRespFree) : ¬ Open m id :=
  fun found => found.taken free

/-- Reading a response finishes its id. -/
theorem consumed_finishes {id : UInt64} {bytes : List UInt8} {w w' : World}
    (run : pollResponse s id w = some (some (.ok bytes), w')) :
    Open w.mem id ∧ ¬ Open w'.mem id := by
  obtain ⟨r, ws, run', polled⟩ := pollResponse_run s id w
  rw [run'] at run
  obtain ⟨rfl, rfl⟩ := Prod.mk.inj (Option.some.inj run)
  cases polled with
  | read gen ready bytes =>
    exact ⟨⟨gen, by rw [ready]; decide⟩, not_open_of_free (by simp [releaseSlotWrites])⟩

/-- A drain that stores anything finishes its id. -/
theorem drained_finishes {id : UInt64} {w w' : World}
    (run : tryDrainResponse s id w = some ((), w')) (moved : w' ≠ w) :
    Open w.mem id ∧ ¬ Open w'.mem id := by
  rcases tryDrainResponse_run s id w with run' | ⟨opened, -, run'⟩ <;> rw [run'] at run <;>
    obtain ⟨-, rfl⟩ := Prod.mk.inj (Option.some.inj run)
  · exact absurd rfl moved
  · exact ⟨opened, not_open_of_free (by simp [releaseSlotWrites])⟩

/-- A cancellation that stores anything finishes its id. -/
theorem cancelled_finishes {id : UInt64} {w w' : World}
    (run : cancelRequest s id w = some ((), w')) (moved : w' ≠ w) :
    Open w.mem id ∧ ¬ Open w'.mem id := by
  rcases cancelRequest_run s id w with run' | ⟨opened, -, run'⟩ <;> rw [run'] at run <;>
    obtain ⟨-, rfl⟩ := Prod.mk.inj (Option.some.inj run)
  · exact absurd rfl moved
  · exact ⟨opened, not_open_of_free (by simp [cancelWrites])⟩

/-- A slot that another acquirer gets, from its dead owner, finishes the id that
held it. -/
theorem reclaimed_finishes {id : UInt64} {mypid gen : UInt32} {pidAlive : UInt32 → Bool}
    {w w' : World} (run : acquireRespSlot s mypid pidAlive w = some (some (idSlot id, gen), w'))
    (opened : Open w.mem id) : ¬ Open w'.mem id := by
  obtain ⟨r, ws, run', acquired⟩ := acquireRespSlot_run s mypid pidAlive w
  rw [run'] at run
  obtain ⟨rfl, rfl⟩ := Prod.mk.inj (Option.some.inj run)
  have taken := takeWrites_bumps mypid (idSlot id) (w.mem.u32 (.respSlotGeneration (idSlot id)))
  have few : bumpsOn (idSlot id) (takeWrites mypid (idSlot id)
      (w.mem.u32 (.respSlotGeneration (idSlot id)))) < 2 ^ 32 := by
    refine Nat.lt_of_le_of_lt List.countP_le_length ?_
    unfold takeWrites
    split <;> simp
  intro found
  refine add_ofNat_ne (by omega) few (Eq.trans ?_ found.gen)
  rw [← opened.gen]
  cases acquired with
  | free bound free =>
    have gen := taken.2 (w.mem.set32 (.respSlotState (idSlot id)) layoutRespAcquired) (by simp)
    simpa [acquireFreeWrites, Mem.writeAll_append] using gen.symm
  | stale bound stale =>
    have gen := taken.2 ((((w.mem.set32 (.respSlotOwnerPid (idSlot id)) 0).set32
      (.respSlotState (idSlot id)) layoutRespFree).set32 .hdrStatRecoveries
      (w.mem.u32 .hdrStatRecoveries + 1)).set32 (.respSlotState (idSlot id)) layoutRespAcquired)
      (by simp)
    simpa [acquireStaleWrites] using gen.symm

/-! ## Any run -/

/-- Whole operations respect ids, whatever order they run in. If an operation
finishes an id (the id was open before it and is not after), the id stays dead:
at every later point `writeResponse` on it fails, and `writeResponse`,
`cancelRequest` and `tryDrainResponse` store nothing. If the operation is a
successful `writeResponse`, every later successful poll of the id returns exactly
its response. -/
theorem whole_operations_respect_ids (ok : s.QueueOk) (fresh : FreshQueue m)
    (unlocked : m.u32 .hdrMutex = 0) (before : List SlotOp) (op : SlotOp) (after : List SlotOp) :
    ∃ w₁ w₂ w₃, runOps s before ⟨m, []⟩ = some ((), w₁) ∧ runOp s op w₁ = some ((), w₂) ∧
      runOps s after w₂ = some ((), w₃) ∧
      ∀ id, bumpsOn (idSlot id) w₃.writes < 2 ^ 32 →
        (Open w₁.mem id → ¬ Open w₂.mem id → IgnoresId s w₃ id) ∧
        ∀ response, op = .writeResponse id response →
          writeResponse s id response w₁ = some (.ok (), w₂) →
          ∀ bytes w₄, pollResponse s id w₃ = some (some (.ok bytes), w₄) → bytes = response := by
  obtain ⟨ws₁, run₁, whole₁⟩ := runOps_whole ok before (w := ⟨m, []⟩) fresh.represents unlocked
  obtain ⟨q₁, queue₁⟩ := whole₁.queue _ fresh.represents
  have unlocked₁ := whole₁.mutex unlocked
  obtain ⟨ws₂, run₂, whole₂⟩ := runOp_whole ok op (w := World.extend ⟨m, []⟩ ws₁) queue₁ unlocked₁
  obtain ⟨q₂, queue₂⟩ := whole₂.queue _ queue₁
  have unlocked₂ := whole₂.mutex unlocked₁
  obtain ⟨ws₃, run₃, whole₃⟩ := runOps_whole ok after
    (w := (World.extend ⟨m, []⟩ ws₁).extend ws₂) queue₂ unlocked₂
  refine ⟨_, _, _, run₁, run₂, run₃, fun id few => ⟨?_, ?_⟩⟩
  · intro opened finished
    have dead := (dead_of_finished opened (whole₂.tame _) finished).later (whole₃.tame _)
    refine dead.ignored (Nat.lt_of_le_of_lt ?_ few)
    simp only [World.extend_writes, bumpsOn_append, List.nil_append]
    omega
  · rintro response rfl replied bytes w₄ polled
    obtain ⟨r, ws, run, outcome⟩ := writeResponse_run s id response (World.extend ⟨m, []⟩ ws₁)
    rw [run] at replied
    obtain ⟨rfl, same⟩ := Prod.mk.inj (Option.some.inj replied)
    have holding := holding_of_replied outcome
    have here : (World.extend ⟨m, []⟩ ws₁).mem.writeAll ws =
        (World.extend ⟨m, []⟩ ws₁).mem.writeAll ws₂ := congrArg World.mem same
    rw [here] at holding
    have holding := holding.later (whole₃.tame _)
    obtain ⟨r, ws', run', outcome'⟩ := pollResponse_run s id
      (((World.extend ⟨m, []⟩ ws₁).extend ws₂).extend ws₃)
    rw [run'] at polled
    obtain ⟨rfl, -⟩ := Prod.mk.inj (Option.some.inj polled)
    refine holding.polled (Nat.lt_of_le_of_lt ?_ few) outcome'
    simp only [World.extend_writes, bumpsOn_append, List.nil_append]
    omega

/-- A cancelled request whose slot is taken again, and an answered one. -/
theorem whole_operations_respect_ids_tiny :
    (∃ w₁ w₂ w₃, runOps tinyShm [.trySend 7 (fun _ => true) [1], .recvLocked]
        ⟨freshMem 0, []⟩ = some ((), w₁) ∧
      runOp tinyShm (.cancelRequest (packId 1 0)) w₁ = some ((), w₂) ∧
      runOps tinyShm [.trySend 8 (fun _ => true) [2]] w₂ = some ((), w₃) ∧
      IgnoresId tinyShm w₃ (packId 1 0)) ∧
    ∃ w₁ w₂ bytes w₄, runOps tinyShm [.trySend 7 (fun _ => true) [1], .recvLocked]
        ⟨freshMem 0, []⟩ = some ((), w₁) ∧
      writeResponse tinyShm (packId 1 0) [9] w₁ = some (.ok (), w₂) ∧
      pollResponse tinyShm (packId 1 0) w₂ = some (some (.ok bytes), w₄) ∧ bytes = [9] := by
  constructor
  · obtain ⟨w₁, w₂, w₃, run₁, run₂, run₃, respects⟩ := whole_operations_respect_ids
      (s := tinyShm) (m := freshMem 0) (by decide) (freshMem_fresh 0) rfl
      [.trySend 7 (fun _ => true) [1], .recvLocked] (.cancelRequest (packId 1 0))
      [.trySend 8 (fun _ => true) [2]]
    have ends : ((runOps tinyShm [.trySend 7 (fun _ => true) [1], .recvLocked]
        ⟨freshMem 0, []⟩).bind fun r₁ =>
        (runOp tinyShm (.cancelRequest (packId 1 0)) r₁.2).bind fun r₂ =>
          (runOps tinyShm [.trySend 8 (fun _ => true) [2]] r₂.2).map fun r₃ =>
            decide (Open r₁.2.mem (packId 1 0) ∧ ¬ Open r₂.2.mem (packId 1 0) ∧
              bumpsOn (idSlot (packId 1 0)) r₃.2.writes < 2 ^ 32)) = some true := by
      decide +kernel
    rw [run₁, Option.bind_some, run₂, Option.bind_some, run₃, Option.map_some] at ends
    obtain ⟨opened, finished, few⟩ := of_decide_eq_true (Option.some.inj ends)
    exact ⟨w₁, w₂, w₃, run₁, run₂, run₃, (respects _ few).1 opened finished⟩
  · obtain ⟨w₁, w₂, w₃, run₁, run₂, run₃, respects⟩ := whole_operations_respect_ids
      (s := tinyShm) (m := freshMem 0) (by decide) (freshMem_fresh 0) rfl
      [.trySend 7 (fun _ => true) [1], .recvLocked] (.writeResponse (packId 1 0) [9]) []
    obtain rfl : w₂ = w₃ := (Prod.mk.inj (Option.some.inj run₃)).2
    have ends : ((runOps tinyShm [.trySend 7 (fun _ => true) [1], .recvLocked]
        ⟨freshMem 0, []⟩).bind fun r₁ =>
        (writeResponse tinyShm (packId 1 0) [9] r₁.2).bind fun r₂ =>
          (pollResponse tinyShm (packId 1 0) r₂.2).map fun r₃ =>
            r₂.1.isOk && (r₃.1.map Except.isOk).getD false &&
              decide (bumpsOn (idSlot (packId 1 0)) r₂.2.writes < 2 ^ 32)) = some true := by
      decide +kernel
    rw [run₁, Option.bind_some] at ends
    obtain ⟨⟨reply, w⟩, replied, ends⟩ := Option.bind_eq_some_iff.mp ends
    obtain ⟨⟨poll, w₄⟩, polled, ends⟩ := Option.map_eq_some_iff.mp ends
    obtain rfl : w = w₂ := by
      simpa [runOp, replied] using run₂
    cases reply with
    | error e => cases ends
    | ok =>
      rcases poll with _ | (e | bytes)
      · cases ends
      · cases ends
      · have few : bumpsOn (idSlot (packId 1 0)) w.writes < 2 ^ 32 := of_decide_eq_true ends
        exact ⟨w₁, w, bytes, w₄, run₁, replied, polled,
          (respects _ few).2 [9] rfl replied bytes w₄ polled⟩

end ReqRep
