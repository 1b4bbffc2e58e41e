import ReqRep.Misc.CircularScan
import ReqRep.Slots.Spec

/-!
# Handing out every slot

A live process that calls `acquireRespSlot` again and again, alone, gets each slot
once, exactly where every slot is FREE or has an owner that `pidAlive` reports
dead.
-/

namespace ReqRep

open Exec

/-- Calls of `acquireRespSlot`, one after another. -/
def acquireMany (s : Shm) (mypid : UInt32) (pidAlive : UInt32 → Bool) :
    Nat → Exec (List (Option (UInt32 × UInt32)))
  | 0 => return []
  | k + 1 => do
    let taken ← acquireRespSlot s mypid pidAlive
    let rest ← acquireMany s mypid pidAlive k
    return taken :: rest

/-- The calls succeed until all slots have been handed out, each slot once. -/
def HandsOut (s : Shm) (m : Mem) (mypid : UInt32) (pidAlive : UInt32 → Bool) : Prop :=
  ∃ (taken : List (UInt32 × UInt32)) (w : World),
    (acquireMany s mypid pidAlive s.respSlots.toNat).run m = some (taken.map some, w) ∧
      (taken.map Prod.fst).Nodup ∧ ∀ slot ∈ taken.map Prod.fst, slot < s.respSlots

/-- One of the two passes can take the slot. -/
def Claimable (m : Mem) (pidAlive : UInt32 → Bool) (i : UInt32) : Prop :=
  m.u32 (.respSlotState i) = layoutRespFree ∨ Stale m pidAlive i

instance (m : Mem) (pidAlive : UInt32 → Bool) (i : UInt32) :
    Decidable (Claimable m pidAlive i) := inferInstanceAs (Decidable (_ ∨ _))

variable {s : Shm} {m m' : Mem} {mypid : UInt32} {pidAlive : UInt32 → Bool}

/-! ## One call -/

/-- What a call that takes a slot leaves behind. -/
structure Claims (s : Shm) (m : Mem) (mypid : UInt32) (pidAlive : UInt32 → Bool) (slot : UInt32)
    (m' : Mem) : Prop where
  bound : slot < s.respSlots
  claimable : Claimable m pidAlive slot
  state : ∀ i, m'.u32 (.respSlotState i) =
    if i = slot then layoutRespAcquired else m.u32 (.respSlotState i)
  owner : ∀ i, m'.u32 (.respSlotOwnerPid i) =
    if i = slot then mypid else m.u32 (.respSlotOwnerPid i)
  hint : m'.u32 .hdrRespHint < s.respSlots

/-- A slot that was taken is out of reach, and the others are as they were. -/
theorem Claims.others {slot : UInt32} (claims : Claims s m mypid pidAlive slot m')
    (live : pidAlive mypid = true) (i : UInt32) :
    Claimable m' pidAlive i ↔ i ≠ slot ∧ Claimable m pidAlive i := by
  unfold Claimable Stale
  rw [claims.state, claims.owner]
  by_cases same : i = slot
  · simp [same, live, layoutRespAcquired, layoutRespFree]
  · simp [same]

theorem takeWrites_state (mypid slot g : UInt32) (m : Mem) (i : UInt32) :
    (m.writeAll (takeWrites mypid slot g)).u32 (.respSlotState i) = m.u32 (.respSlotState i) := by
  unfold takeWrites
  split <;> simp

theorem takeWrites_owner (mypid slot g : UInt32) (m : Mem) (i : UInt32) :
    (m.writeAll (takeWrites mypid slot g)).u32 (.respSlotOwnerPid i) =
      if i = slot then mypid else m.u32 (.respSlotOwnerPid i) := by
  unfold takeWrites
  split <;> simp

theorem takeWrites_hint (mypid slot g : UInt32) (m : Mem) :
    (m.writeAll (takeWrites mypid slot g)).u32 .hdrRespHint = m.u32 .hdrRespHint := by
  unfold takeWrites
  split <;> simp

private theorem mod_lt {m : UInt32} (pos : 0 < m.toNat) (i : UInt32) : i % m < m := by
  rw [UInt32.lt_iff_toNat_lt, UInt32.toNat_mod]
  exact Nat.mod_lt _ pos

/-- The first pass hands its slot out. -/
theorem acquireFree_claims {slot : UInt32} (bound : slot < s.respSlots)
    (free : m.u32 (.respSlotState slot) = layoutRespFree) :
    Claims s m mypid pidAlive slot (m.writeAll (acquireFreeWrites s m mypid slot)) where
  bound := bound
  claimable := .inl free
  state i := by
    simp [acquireFreeWrites, Mem.writeAll_append, takeWrites_state]
  owner i := by
    simp [acquireFreeWrites, Mem.writeAll_append, takeWrites_owner]
  hint := by
    have pos : 0 < s.respSlots.toNat := Nat.zero_lt_of_lt (UInt32.lt_iff_toNat_lt.mp bound)
    simpa [acquireFreeWrites, Mem.writeAll_append] using mod_lt pos _

/-- The second pass hands its slot out. -/
theorem acquireStale_claims {slot : UInt32} (bound : slot < s.respSlots)
    (stale : Stale m pidAlive slot) (hint : m.u32 .hdrRespHint < s.respSlots) :
    Claims s m mypid pidAlive slot (m.writeAll (acquireStaleWrites m mypid slot)) where
  bound := bound
  claimable := .inr stale
  state i := by
    simp only [acquireStaleWrites, Mem.writeAll_cons, takeWrites_state]
    by_cases same : i = slot <;> simp [same]
  owner i := by
    simp only [acquireStaleWrites, Mem.writeAll_cons, takeWrites_owner]
    by_cases same : i = slot <;> simp [same]
  hint := by
    simpa [acquireStaleWrites, takeWrites_hint] using hint

/-- The first pass visits the slots in the order of a circular scan. -/
theorem scanSlot_toNat (s : Shm) (hint : UInt32) {j : Nat} (bound : j < s.respSlots.toNat) :
    (scanSlot s hint (0 + UInt32.ofNat j)).toNat =
      CircularScan.visit (2 ^ 32) s.respSlots.toNat hint.toNat j := by
  have size := s.respSlots.toNat_lt
  rw [scanSlot, UInt32.toNat_mod, UInt32.zero_add, UInt32.toNat_add, UInt32.toNat_ofNat',
    Nat.mod_eq_of_lt (a := j) (by omega), CircularScan.visit]

/-- The first pass looks at every slot: `hint + i` does not wrap. -/
theorem scanSlot_surjective (few : s.respSlots.toNat ≤ 2 ^ 31) {hint i : UInt32}
    (start : hint < s.respSlots) (bound : i < s.respSlots) :
    ∃ j < s.respSlots.toNat, scanSlot s hint (0 + UInt32.ofNat j) = i := by
  rw [UInt32.lt_iff_toNat_lt] at start bound
  have reach : CircularScan.InReach (2 ^ 32) s.respSlots.toNat hint.toNat i.toNat :=
    CircularScan.inReach_of_le (Nat.mul_le_mul_left 2 few) bound
  obtain ⟨j, inside, visited⟩ := reach.visited s.respSlots.toNat_lt.le start bound
  exact ⟨j, inside, UInt32.toNat_inj.mp ((scanSlot_toNat s hint inside).trans visited)⟩

/-- A call takes a claimable slot, or there is none. -/
theorem acquireRespSlot_claims (mypid : UInt32) (pidAlive : UInt32 → Bool)
    (few : s.respSlots.toNat ≤ 2 ^ 31) {w : World}
    (hint : w.mem.u32 .hdrRespHint < s.respSlots) :
    (∃ slot gen w', acquireRespSlot s mypid pidAlive w = some (some (slot, gen), w') ∧
      Claims s w.mem mypid pidAlive slot w'.mem) ∨
    (∀ i < s.respSlots, ¬ Claimable w.mem pidAlive i) ∧
      acquireRespSlot s mypid pidAlive w = some (none, w) := by
  have inRange : ∀ j < s.respSlots.toNat, 0 + UInt32.ofNat j < s.respSlots := by
    intro j bound
    have := s.respSlots.toNat_lt
    rw [UInt32.lt_iff_toNat_lt, UInt32.zero_add, UInt32.toNat_ofNat', Nat.mod_eq_of_lt (by omega)]
    exact bound
  unfold acquireRespSlot
  simp only [bind_apply, load32_apply, Option.bind_some]
  rcases acquireFree_run s mypid (w.mem.u32 .hdrRespHint) s.respSlots.toNat 0 w with
    ⟨j, bound, found, -, run⟩ | ⟨taken, run⟩
  · rw [run]
    exact .inl ⟨_, _, _, rfl, acquireFree_claims (mod_lt (Nat.zero_lt_of_lt bound) _) found⟩
  · rw [run]
    simp only [Option.bind_some]
    rcases acquireStale_run s mypid pidAlive s.respSlots.toNat 0 w with
      ⟨j, bound, found, run⟩ | ⟨alive, run⟩
    · exact .inl ⟨_, _, _, run, acquireStale_claims (inRange j bound) found hint⟩
    · refine .inr ⟨fun i bound => ?_, run⟩
      rintro (free | stale)
      · obtain ⟨j, below, rfl⟩ := scanSlot_surjective few hint bound
        exact taken j below free
      · have below := UInt32.lt_iff_toNat_lt.mp bound
        refine alive i.toNat below ?_
        rwa [UInt32.ofNat_toNat, UInt32.zero_add]

/-! ## Many calls -/

/-- The numbers of the claimable slots. -/
def claimables (s : Shm) (m : Mem) (pidAlive : UInt32 → Bool) : Finset Nat :=
  (Finset.range s.respSlots.toNat).filter fun i => Claimable m pidAlive (UInt32.ofNat i)

theorem mem_claimables {slot : UInt32} :
    slot.toNat ∈ claimables s m pidAlive ↔ slot < s.respSlots ∧ Claimable m pidAlive slot := by
  rw [claimables, Finset.mem_filter, Finset.mem_range, UInt32.ofNat_toNat, UInt32.lt_iff_toNat_lt]

/-- A slot that is handed out is not to be had again. -/
theorem Claims.card {slot : UInt32} (claims : Claims s m mypid pidAlive slot m')
    (live : pidAlive mypid = true) :
    (claimables s m pidAlive).card = (claimables s m' pidAlive).card + 1 := by
  have member := mem_claimables.mpr ⟨claims.bound, claims.claimable⟩
  rw [← Finset.card_erase_add_one member]
  congr 2
  ext i
  simp only [claimables, Finset.mem_erase, Finset.mem_filter, Finset.mem_range,
    claims.others live]
  constructor
  · rintro ⟨other, bound, able⟩
    refine ⟨bound, ?_, able⟩
    rintro rfl
    have size := s.respSlots.toNat_lt
    rw [UInt32.toNat_ofNat', Nat.mod_eq_of_lt (by omega)] at other
    exact other rfl
  · rintro ⟨bound, other, able⟩
    refine ⟨?_, bound, able⟩
    rintro rfl
    exact other UInt32.ofNat_toNat

/-- Calls that all succeed took different claimable slots, and they all succeed
while there are enough of these. -/
theorem acquireMany_run (few : s.respSlots.toNat ≤ 2 ^ 31) (live : pidAlive mypid = true)
    (k : Nat) {w : World} (hint : w.mem.u32 .hdrRespHint < s.respSlots) :
    ∃ results w', acquireMany s mypid pidAlive k w = some (results, w') ∧
      results.length = k ∧
      (∀ taken : List (UInt32 × UInt32), results = taken.map some →
        (taken.map Prod.fst).Nodup ∧
          ∀ slot ∈ taken.map Prod.fst, slot < s.respSlots ∧ Claimable w.mem pidAlive slot) ∧
      (k ≤ (claimables s w.mem pidAlive).card →
        ∃ taken : List (UInt32 × UInt32), results = taken.map some) := by
  induction k generalizing w with
  | zero =>
    refine ⟨[], w, rfl, rfl, fun taken none => ?_, fun _ => ⟨[], rfl⟩⟩
    obtain rfl := List.map_eq_nil_iff.mp none.symm
    exact ⟨List.nodup_nil, fun slot member => absurd member List.not_mem_nil⟩
  | succ k ih =>
    rcases acquireRespSlot_claims mypid pidAlive few hint with
      ⟨slot, gen, w₁, call, claims⟩ | ⟨exhausted, call⟩
    · obtain ⟨rest, w', run, length, distinct, enough⟩ := ih claims.hint
      refine ⟨some (slot, gen) :: rest, w', ?_, by rw [List.length_cons, length], ?_, ?_⟩
      · simp [acquireMany, call, run]
      · rintro (_ | ⟨first, taken⟩) same
        · cases same
        · obtain ⟨this, rfl⟩ := List.cons.inj same
          obtain rfl := Option.some.inj this
          obtain ⟨nodup, able⟩ := distinct taken rfl
          refine ⟨List.nodup_cons.mpr ⟨fun again => ?_, nodup⟩, fun i member => ?_⟩
          · exact ((claims.others live slot).mp (able slot again).2).1 rfl
          · rcases List.mem_cons.mp member with rfl | later
            · exact ⟨claims.bound, claims.claimable⟩
            · exact ⟨(able i later).1, ((claims.others live i).mp (able i later).2).2⟩
      · intro many
        rw [claims.card live] at many
        obtain ⟨taken, rfl⟩ := enough (Nat.le_of_succ_le_succ many)
        exact ⟨(slot, gen) :: taken, rfl⟩
    · obtain ⟨rest, w', run, length, -, -⟩ := ih hint
      refine ⟨none :: rest, w', ?_, by rw [List.length_cons, length], ?_, fun many => ?_⟩
      · simp [acquireMany, call, run]
      · rintro (_ | ⟨first, taken⟩) same <;> cases same
      · obtain ⟨i, member⟩ := Finset.card_pos.mp (Nat.lt_of_lt_of_le (Nat.succ_pos k) many)
        rw [claimables, Finset.mem_filter, Finset.mem_range] at member
        refine absurd member.2 (exhausted _ ?_)
        rw [UInt32.lt_iff_toNat_lt, UInt32.toNat_ofNat']
        exact Nat.lt_of_le_of_lt (Nat.mod_le _ _) member.1

/-- A live process gets every slot exactly where every slot is FREE or stale. -/
theorem handsOut_iff (few : s.respSlots.toNat ≤ 2 ^ 31) (live : pidAlive mypid = true)
    (hint : m.u32 .hdrRespHint < s.respSlots) :
    HandsOut s m mypid pidAlive ↔ ∀ i < s.respSlots, Claimable m pidAlive i := by
  obtain ⟨results, w', run, length, distinct, enough⟩ :=
    acquireMany_run few live s.respSlots.toNat (w := { mem := m, writes := [] }) hint
  have range : (claimables s m pidAlive) ⊆ Finset.range s.respSlots.toNat :=
    Finset.filter_subset _ _
  constructor
  · rintro ⟨taken, w, ran, -, -⟩ i bound
    obtain ⟨rfl, -⟩ := Prod.mk.inj (Option.some.inj (run.symm.trans ran))
    obtain ⟨nodup, able⟩ := distinct taken rfl
    -- as many different claimable slots as there are slots
    have distinct' : ((taken.map Prod.fst).map UInt32.toNat).Nodup :=
      nodup.map fun _ _ => UInt32.toNat_inj.mp
    have subset : ((taken.map Prod.fst).map UInt32.toNat).toFinset ⊆ claimables s m pidAlive := by
      intro j member
      obtain ⟨slot, found, rfl⟩ := List.mem_map.mp (List.mem_toFinset.mp member)
      exact mem_claimables.mpr (able slot found)
    have card := Finset.card_le_card subset
    rw [List.toFinset_card_of_nodup distinct', List.length_map, List.length_map,
      show taken.length = s.respSlots.toNat by simpa using length] at card
    have all := Finset.eq_of_subset_of_card_le range (by rwa [Finset.card_range])
    have member : i.toNat ∈ claimables s m pidAlive := by
      rw [all, Finset.mem_range]
      exact UInt32.lt_iff_toNat_lt.mp bound
    exact (mem_claimables.mp member).2
  · intro able
    have all : claimables s m pidAlive = Finset.range s.respSlots.toNat := by
      refine Finset.filter_true_of_mem fun i member => able _ ?_
      rw [UInt32.lt_iff_toNat_lt, UInt32.toNat_ofNat']
      exact Nat.lt_of_le_of_lt (Nat.mod_le _ _) (Finset.mem_range.mp member)
    obtain ⟨taken, rfl⟩ := enough (by
      change _ ≤ (claimables s m pidAlive).card
      rw [all, Finset.card_range])
    obtain ⟨nodup, bounds⟩ := distinct taken rfl
    exact ⟨taken, w', run, nodup, fun slot member => (bounds slot member).1⟩

end ReqRep
