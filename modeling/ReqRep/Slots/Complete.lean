import ReqRep.Layout.Header
import ReqRep.Slots.Handout

/-!
# What `acquireRespSlot` finds and touches

One call, run alone on any state. It takes the first FREE slot in circular order
from `resp_hint`, and a slot of a dead owner where none is FREE. The exception is
a scan whose sum `hint + i` wraps at 2^32 before it has reached any FREE slot.
-/

namespace ReqRep

open Exec

variable {s : Shm} {m m' : Mem} {mypid : UInt32} {pidAlive : UInt32 → Bool}

/-! ## What a call should do -/

/-- Slot `i` is the same in both memories. -/
structure SameSlot (i : UInt32) (m m' : Mem) : Prop where
  state : m'.u32 (.respSlotState i) = m.u32 (.respSlotState i)
  waiters : m'.u32 (.respSlotWaiters i) = m.u32 (.respSlotWaiters i)
  owner : m'.u32 (.respSlotOwnerPid i) = m.u32 (.respSlotOwnerPid i)
  len : m'.u32 (.respSlotLen i) = m.u32 (.respSlotLen i)
  flags : m'.u32 (.respSlotFlags i) = m.u32 (.respSlotFlags i)
  gen : m'.u32 (.respSlotGeneration i) = m.u32 (.respSlotGeneration i)
  data : ∀ k, m'.u8 (.respSlotData i k) = m.u8 (.respSlotData i k)

theorem SameSlot.refl (i : UInt32) (m : Mem) : SameSlot i m m :=
  ⟨rfl, rfl, rfl, rfl, rfl, rfl, fun _ => rfl⟩

/-- No slot is FREE. -/
def NoneFree (s : Shm) (m : Mem) : Prop :=
  ∀ i < s.respSlots, m.u32 (.respSlotState i) ≠ layoutRespFree

/-- How far behind `resp_hint` slot `i` lies in circular order. -/
def hintDistance (s : Shm) (m : Mem) (i : UInt32) : Nat :=
  CircularScan.distance s.respSlots.toNat (m.u32 .hdrRespHint).toNat i.toNat

/-- The slot is FREE, and the first FREE one in circular order from `resp_hint`. -/
structure FirstFree (s : Shm) (m : Mem) (slot : UInt32) : Prop where
  free : m.u32 (.respSlotState slot) = layoutRespFree
  first : ∀ i < s.respSlots, m.u32 (.respSlotState i) = layoutRespFree →
    hintDistance s m slot ≤ hintDistance s m i

/-- A slot that a living process holds. -/
def LiveOwned (m : Mem) (pidAlive : UInt32 → Bool) (i : UInt32) : Prop :=
  (m.u32 (.respSlotState i) = layoutRespAcquired ∨ m.u32 (.respSlotState i) = layoutRespReady) ∧
    m.u32 (.respSlotOwnerPid i) ≠ 0 ∧ pidAlive (m.u32 (.respSlotOwnerPid i)) = true

/-- A call took `slot`, at generation `gen`, and touched no other slot. -/
structure TookSlot (s : Shm) (m : Mem) (mypid : UInt32) (pidAlive : UInt32 → Bool)
    (slot gen : UInt32) (m' : Mem) : Prop where
  bound : slot < s.respSlots
  chosen : FirstFree s m slot ∨ NoneFree s m ∧ Stale m pidAlive slot
  state : m'.u32 (.respSlotState slot) = layoutRespAcquired
  owner : m'.u32 (.respSlotOwnerPid slot) = mypid
  generation : m'.u32 (.respSlotGeneration slot) = gen
  nonzero : gen ≠ 0
  fresh : gen ≠ m.u32 (.respSlotGeneration slot)
  others : ∀ i ≠ slot, SameSlot i m m'

/-- The call is complete and touches only what it takes. -/
structure AcquiresCompletely (s : Shm) (m : Mem) (mypid : UInt32) (pidAlive : UInt32 → Bool)
    (result : Option (UInt32 × UInt32)) (m' : Mem) : Prop where
  succeeds : result.isSome ↔ ∃ i < s.respSlots, Claimable m pidAlive i
  takes : ∀ slot gen, result = some (slot, gen) → TookSlot s m mypid pidAlive slot gen m'
  fails : result = none → ∀ i, SameSlot i m m'
  spares : ∀ i, LiveOwned m pidAlive i → SameSlot i m m'
  hint : m'.u32 .hdrRespHint < s.respSlots

/-- The first pass looks at slot `i`: it lies at or behind `resp_hint`, or the sum
reaches it before it wraps, or after. -/
def Scanned (s : Shm) (m : Mem) (i : UInt32) : Prop :=
  CircularScan.InReach (2 ^ 32) s.respSlots.toNat (m.u32 .hdrRespHint).toNat i.toNat

instance Scanned.decidable (s : Shm) (m : Mem) (i : UInt32) : Decidable (Scanned s m i) :=
  inferInstanceAs (Decidable (CircularScan.InReach _ _ _ _))

/-- No slot is FREE, or the first pass looks at one that is. -/
def FindsFree (s : Shm) (m : Mem) : Prop :=
  NoneFree s m ∨ ∃ i < s.respSlots, m.u32 (.respSlotState i) = layoutRespFree ∧ Scanned s m i

/-- If every slot that was looked at is taken, all are. -/
theorem FindsFree.noneFree (finds : FindsFree s m)
    (missed : ∀ i < s.respSlots, Scanned s m i → m.u32 (.respSlotState i) ≠ layoutRespFree) :
    NoneFree s m := by
  rcases finds with noneFree | ⟨i, below, free, scanned⟩
  · exact noneFree
  · exact absurd free (missed i below scanned)

/-! ## What a call does -/

theorem nextGen_ne (g : UInt32) : nextGen g ≠ g := by
  unfold nextGen
  intro same
  split at same <;> grind

theorem takeWrites_frame {slot g : UInt32} {l : Loc32} (owner : l ≠ .respSlotOwnerPid slot)
    (gen : l ≠ .respSlotGeneration slot) (m : Mem) :
    (m.writeAll (takeWrites mypid slot g)).u32 l = m.u32 l := by
  unfold takeWrites
  split <;> simp [owner, gen]

theorem takeWrites_gen (mypid slot g : UInt32) (m : Mem) :
    (m.writeAll (takeWrites mypid slot g)).u32 (.respSlotGeneration slot) = nextGen g := by
  unfold takeWrites nextGen
  split <;> simp_all

theorem takeWrites_u8 (mypid slot g : UInt32) (m : Mem) :
    (m.writeAll (takeWrites mypid slot g)).u8 = m.u8 := by
  unfold takeWrites
  split <;> rfl

theorem takeWrites_u64 (mypid slot g : UInt32) (m : Mem) :
    (m.writeAll (takeWrites mypid slot g)).u64 = m.u64 := by
  unfold takeWrites
  split <;> rfl

/-- The stores of an acquisition, seen from every word. -/
structure TakeEffect (m : Mem) (mypid slot : UInt32) (m' : Mem) : Prop where
  state : m'.u32 (.respSlotState slot) = layoutRespAcquired
  owner : m'.u32 (.respSlotOwnerPid slot) = mypid
  gen : m'.u32 (.respSlotGeneration slot) = nextGen (m.u32 (.respSlotGeneration slot))
  words : ∀ l, l ≠ .respSlotState slot → l ≠ .respSlotOwnerPid slot →
    l ≠ .respSlotGeneration slot → l ≠ .hdrRespHint → l ≠ .hdrStatRecoveries →
    m'.u32 l = m.u32 l
  counters : m'.u64 = m.u64
  bytes : m'.u8 = m.u8

/-- The first pass leaves the statistics alone. -/
theorem acquireFree_words {slot : UInt32} {l : Loc32} (state : l ≠ .respSlotState slot)
    (owner : l ≠ .respSlotOwnerPid slot) (gen : l ≠ .respSlotGeneration slot)
    (hint : l ≠ .hdrRespHint) (s : Shm) (m : Mem) (mypid : UInt32) :
    (m.writeAll (acquireFreeWrites s m mypid slot)).u32 l = m.u32 l := by
  simp [acquireFreeWrites, Mem.writeAll_append, takeWrites_frame owner gen, state, hint]

/-- What the first pass does to the slot it takes. -/
theorem acquireFree_effect (s : Shm) (m : Mem) (mypid slot : UInt32) :
    TakeEffect m mypid slot (m.writeAll (acquireFreeWrites s m mypid slot)) where
  state := by
    simp [acquireFreeWrites, Mem.writeAll_append, takeWrites_state]
  owner := by
    simp [acquireFreeWrites, Mem.writeAll_append, takeWrites_owner]
  gen := by
    simp [acquireFreeWrites, Mem.writeAll_append, takeWrites_gen]
  words := by
    intro l state owner gen hint _
    exact acquireFree_words state owner gen hint s m mypid
  counters := by
    simp [acquireFreeWrites, Mem.writeAll_append, takeWrites_u64]
  bytes := by
    simp [acquireFreeWrites, Mem.writeAll_append, takeWrites_u8]

/-- What the second pass does to the slot it takes. -/
theorem acquireStale_effect (m : Mem) (mypid slot : UInt32) :
    TakeEffect m mypid slot (m.writeAll (acquireStaleWrites m mypid slot)) where
  state := by
    simp [acquireStaleWrites, takeWrites_state]
  owner := by
    simp [acquireStaleWrites, takeWrites_owner]
  gen := by
    simp [acquireStaleWrites, takeWrites_gen]
  words := by
    intro l state owner gen _ stat
    simp [acquireStaleWrites, takeWrites_frame owner gen, state, owner, stat]
  counters := by
    simp [acquireStaleWrites, takeWrites_u64]
  bytes := by
    simp [acquireStaleWrites, takeWrites_u8]

/-- An acquisition leaves the other slots alone. -/
theorem TakeEffect.others {slot : UInt32} (effect : TakeEffect m mypid slot m') {i : UInt32}
    (other : i ≠ slot) : SameSlot i m m' := by
  have word : ∀ l, l ≠ .respSlotState slot → l ≠ .respSlotOwnerPid slot →
      l ≠ .respSlotGeneration slot → l ≠ .hdrRespHint → l ≠ .hdrStatRecoveries →
      m'.u32 l = m.u32 l := effect.words
  constructor
  case data =>
    intro k
    rw [effect.bytes]
  all_goals
    apply word <;> simp [other]

theorem TakeEffect.tookSlot {slot : UInt32} (effect : TakeEffect m mypid slot m')
    (bound : slot < s.respSlots)
    (chosen : FirstFree s m slot ∨ NoneFree s m ∧ Stale m pidAlive slot) :
    TookSlot s m mypid pidAlive slot (nextGen (m.u32 (.respSlotGeneration slot))) m' where
  bound := bound
  chosen := chosen
  state := effect.state
  owner := effect.owner
  generation := effect.gen
  nonzero := nextGen_ne_zero _
  fresh := nextGen_ne _
  others := fun _ => effect.others

/-- The first pass takes the first FREE slot in circular order, or it looks at no
FREE slot. -/
theorem acquireFree_first (mypid : UInt32) {w : World}
    (hint : w.mem.u32 .hdrRespHint < s.respSlots) :
    (∃ slot < s.respSlots, Scanned s w.mem slot ∧ FirstFree s w.mem slot ∧
      acquireFree s mypid (w.mem.u32 .hdrRespHint) s.respSlots.toNat 0 w =
        some (some (slot, nextGen (w.mem.u32 (.respSlotGeneration slot))),
          w.extend (acquireFreeWrites s w.mem mypid slot))) ∨
    ((∀ i < s.respSlots, Scanned s w.mem i → w.mem.u32 (.respSlotState i) ≠ layoutRespFree) ∧
      acquireFree s mypid (w.mem.u32 .hdrRespHint) s.respSlots.toNat 0 w = some (none, w)) := by
  have size := s.respSlots.toNat_lt.le
  have inside := UInt32.lt_iff_toNat_lt.mp hint
  have cell : ∀ j < s.respSlots.toNat,
      scanSlot s (w.mem.u32 .hdrRespHint) (0 + UInt32.ofNat j) = UInt32.ofNat
        (CircularScan.visit (2 ^ 32) s.respSlots.toNat (w.mem.u32 .hdrRespHint).toNat j) := by
    intro j bound
    rw [← scanSlot_toNat s _ bound, UInt32.ofNat_toNat]
  rcases acquireFree_run s mypid (w.mem.u32 .hdrRespHint) s.respSlots.toNat 0 w with
    ⟨j, bound, found, taken, run⟩ | ⟨none, run⟩
  · have here := scanSlot_toNat s (w.mem.u32 .hdrRespHint) bound
    refine .inl ⟨_, ?_, ?_, ⟨found, fun i below free => ?_⟩, run⟩
    · exact scanSlot_lt (Nat.zero_lt_of_lt bound) _ _
    · rw [Scanned, here]
      exact CircularScan.visit_inReach size inside bound
    · rw [hintDistance, hintDistance, here]
      refine CircularScan.first_visited
        (p := fun i => w.mem.u32 (.respSlotState (UInt32.ofNat i)) = layoutRespFree)
        size inside bound (fun k earlier => ?_) (UInt32.lt_iff_toNat_lt.mp below) ?_
      · rw [← cell k (Nat.lt_trans earlier bound)]
        exact taken k earlier
      · rwa [UInt32.ofNat_toNat]
  · refine .inr ⟨fun i below scanned => ?_, run⟩
    obtain ⟨j, bound, visited⟩ :=
      scanned.visited size inside (UInt32.lt_iff_toNat_lt.mp below)
    have here := none j bound
    rwa [cell j bound, visited, UInt32.ofNat_toNat] at here

/-- The second pass takes a stale slot, or there is none. -/
theorem acquireStale_any (s : Shm) (mypid : UInt32) (pidAlive : UInt32 → Bool) (w : World) :
    (∃ slot < s.respSlots, Stale w.mem pidAlive slot ∧
      acquireStale s mypid pidAlive s.respSlots.toNat 0 w =
        some (some (slot, nextGen (w.mem.u32 (.respSlotGeneration slot))),
          w.extend (acquireStaleWrites w.mem mypid slot))) ∨
    ((∀ i < s.respSlots, ¬ Stale w.mem pidAlive i) ∧
      acquireStale s mypid pidAlive s.respSlots.toNat 0 w = some (none, w)) := by
  rcases acquireStale_run s mypid pidAlive s.respSlots.toNat 0 w with
    ⟨j, bound, stale, run⟩ | ⟨none, run⟩
  · refine .inl ⟨_, ?_, stale, run⟩
    have := s.respSlots.toNat_lt
    rw [UInt32.lt_iff_toNat_lt, UInt32.zero_add, UInt32.toNat_ofNat', Nat.mod_eq_of_lt (by omega)]
    exact bound
  · refine .inr ⟨fun i below => ?_, run⟩
    have here := none i.toNat (UInt32.lt_iff_toNat_lt.mp below)
    rwa [UInt32.ofNat_toNat, UInt32.zero_add] at here

/-- A slot of a living process is not claimable. -/
theorem LiveOwned.not_claimable {i : UInt32} (live : LiveOwned m pidAlive i) :
    ¬ Claimable m pidAlive i := by
  obtain ⟨held, -, alive⟩ := live
  rintro (free | ⟨-, -, dead⟩)
  · rw [free] at held
    exact absurd held (by decide)
  · rw [alive] at dead
    cases dead

theorem TookSlot.claimable {slot gen : UInt32}
    (took : TookSlot s m mypid pidAlive slot gen m') : Claimable m pidAlive slot := by
  rcases took.chosen with first | ⟨-, stale⟩
  · exact .inl first.free
  · exact .inr stale

/-- Where a call took a slot, it was complete. -/
theorem TookSlot.completely {slot gen : UInt32} (took : TookSlot s m mypid pidAlive slot gen m')
    (hint : m'.u32 .hdrRespHint < s.respSlots) :
    AcquiresCompletely s m mypid pidAlive (some (slot, gen)) m' where
  succeeds := ⟨fun _ => ⟨slot, took.bound, took.claimable⟩, fun _ => rfl⟩
  takes := by
    rintro slot' gen' same
    obtain ⟨rfl, rfl⟩ := Prod.mk.inj (Option.some.inj same)
    exact took
  fails := nofun
  spares := by
    intro i live
    refine took.others i ?_
    rintro rfl
    exact live.not_claimable took.claimable
  hint := hint

/-- The two passes of a call. -/
private theorem acquireRespSlot_passes (s : Shm) (m : Mem) (mypid : UInt32)
    (pidAlive : UInt32 → Bool) :
    (acquireRespSlot s mypid pidAlive).run m =
      (acquireFree s mypid (m.u32 .hdrRespHint) s.respSlots.toNat 0 ⟨m, []⟩).bind fun r =>
        match r.1 with
        | some taken => some (some taken, r.2)
        | none => acquireStale s mypid pidAlive s.respSlots.toNat 0 r.2 := by
  simp only [acquireRespSlot, Exec.run, bind_apply, load32_apply, Option.bind_some]
  congr 1
  funext r
  cases r.1 <;> rfl

/-- The first pass succeeds, the second one does, or both look in vain. -/
theorem acquireRespSlot_cases (mypid : UInt32) (pidAlive : UInt32 → Bool)
    (hint : m.u32 .hdrRespHint < s.respSlots) :
    (∃ slot < s.respSlots, Scanned s m slot ∧ FirstFree s m slot ∧
      (acquireRespSlot s mypid pidAlive).run m =
        some (some (slot, nextGen (m.u32 (.respSlotGeneration slot))),
          World.extend ⟨m, []⟩ (acquireFreeWrites s m mypid slot))) ∨
    (∀ i < s.respSlots, Scanned s m i → m.u32 (.respSlotState i) ≠ layoutRespFree) ∧
      ((∃ slot < s.respSlots, Stale m pidAlive slot ∧
        (acquireRespSlot s mypid pidAlive).run m =
          some (some (slot, nextGen (m.u32 (.respSlotGeneration slot))),
            World.extend ⟨m, []⟩ (acquireStaleWrites m mypid slot))) ∨
      (∀ i < s.respSlots, ¬ Stale m pidAlive i) ∧
        (acquireRespSlot s mypid pidAlive).run m = some (none, ⟨m, []⟩)) := by
  rw [acquireRespSlot_passes]
  rcases acquireFree_first mypid (w := ⟨m, []⟩) hint with
    ⟨slot, bound, scanned, first, run⟩ | ⟨missed, run⟩
  · exact .inl ⟨slot, bound, scanned, first, by rw [run]; rfl⟩
  · rw [run]
    exact .inr ⟨missed, acquireStale_any s mypid pidAlive ⟨m, []⟩⟩

/-- `acquireRespSlot` run alone is complete, and touches only what it takes,
exactly in the states where no slot is FREE or its first pass looks at one that
is. -/
theorem acquireRespSlot_complete_iff (hint : m.u32 .hdrRespHint < s.respSlots) :
    (∃ result w, (acquireRespSlot s mypid pidAlive).run m = some (result, w) ∧
      AcquiresCompletely s m mypid pidAlive result w.mem) ↔ FindsFree s m := by
  rcases acquireRespSlot_cases mypid pidAlive hint with
    ⟨slot, bound, scanned, first, run⟩ | ⟨missed, ⟨slot, bound, stale, run⟩ | ⟨noStale, run⟩⟩
  · refine ⟨fun _ => .inr ⟨slot, bound, first.free, scanned⟩, fun _ => ?_⟩
    have claims : Claims s m mypid pidAlive slot _ := acquireFree_claims bound first.free
    have took : TookSlot s m mypid pidAlive slot _ _ :=
      (acquireFree_effect s m mypid slot).tookSlot bound (.inl first)
    exact ⟨_, _, run, took.completely claims.hint⟩
  · constructor
    · rintro ⟨result, w, run', complete⟩
      obtain ⟨rfl, rfl⟩ := Prod.mk.inj (Option.some.inj (run.symm.trans run'))
      rcases (complete.takes _ _ rfl).chosen with first | ⟨noneFree, -⟩
      · have held := stale.1
        rw [first.free] at held
        exact absurd held (by decide)
      · exact .inl noneFree
    · intro finds
      have claims : Claims s m mypid pidAlive slot _ := acquireStale_claims bound stale hint
      have took : TookSlot s m mypid pidAlive slot _ _ :=
        (acquireStale_effect m mypid slot).tookSlot bound (.inr ⟨finds.noneFree missed, stale⟩)
      exact ⟨_, _, run, took.completely claims.hint⟩
  · constructor
    · rintro ⟨result, w, run', complete⟩
      obtain ⟨rfl, rfl⟩ := Prod.mk.inj (Option.some.inj (run.symm.trans run'))
      refine .inl fun i below free => ?_
      have failed := complete.succeeds.mpr ⟨i, below, .inl free⟩
      cases failed
    · intro finds
      refine ⟨_, _, run, ⟨⟨nofun, ?_⟩, nofun, fun _ i => .refl i m, fun i _ => .refl i m, hint⟩⟩
      rintro ⟨i, below, free | stale⟩
      · exact absurd free (finds.noneFree missed i below)
      · exact absurd stale (noStale i below)

/-- 2^31 + 1 slots, which the layout accepts. -/
def wideShm : Shm where
  reqCap := 1
  reqArenaCap := 4096
  respSlots := 2147483649
  respDataMax := 1

/-- Dead process 5 holds every slot. -/
def deadOwnerMem : Mem where
  u32
    | .respSlotState _ => layoutRespAcquired
    | .respSlotOwnerPid _ => 5
    | _ => 0
  u64 _ := 0
  u8 _ := 0

/-- No slot is FREE, and the first one is taken over. -/
theorem acquireRespSlot_complete_iff_deadOwner :
    (∃ result w, (acquireRespSlot wideShm 7 fun pid => pid = 7).run deadOwnerMem =
        some (result, w) ∧
      AcquiresCompletely wideShm deadOwnerMem 7 (fun pid => pid = 7) result w.mem) ↔
      FindsFree wideShm deadOwnerMem :=
  acquireRespSlot_complete_iff (by decide)

/-- Process 7 holds every slot but the one before `resp_hint`. -/
def wideMem : Mem where
  u32
    | .hdrRespHint => 2147483648
    | .respSlotState i => if i = 2147483647 then layoutRespFree else layoutRespAcquired
    | .respSlotOwnerPid _ => 7
    | _ => 0
  u64 _ := 0
  u8 _ := 0

/-- The scan of 2^31 + 1 slots wraps before it has come to the only FREE one, and
the call fails. -/
theorem wrapped_scan_misses :
    (∃ l, computeLayout wideShm.reqCap wideShm.respSlots wideShm.respDataMax 4096 = .ok l) ∧
      wideMem.u32 .hdrRespHint < wideShm.respSlots ∧ 2147483647 < wideShm.respSlots ∧
      wideMem.u32 (.respSlotState 2147483647) = layoutRespFree ∧
      (acquireRespSlot wideShm 7 fun _ => true).run wideMem = some (none, ⟨wideMem, []⟩) := by
  have stateOf : ∀ i, wideMem.u32 (.respSlotState i) =
      if i = 2147483647 then layoutRespFree else layoutRespAcquired := fun _ => rfl
  refine ⟨⟨_, rfl⟩, by decide, by decide, rfl, ?_⟩
  rcases acquireRespSlot_cases (s := wideShm) (m := wideMem) 7 (fun _ => true) (by decide) with
    ⟨slot, -, scanned, first, -⟩ | ⟨-, ⟨slot, -, ⟨-, -, dead⟩, -⟩ | ⟨-, run⟩⟩
  · exfalso
    have free := first.free
    rw [stateOf] at free
    split at free
    · next same =>
      subst same
      exact absurd scanned (by decide)
    · cases free
  · cases dead
  · exact run

end ReqRep
