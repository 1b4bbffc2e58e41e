import ReqRep.Queue.Spec

/-!
# The queue in the mapping

`Ring s m live` says that the queue slots between `req_head` and `req_tail`
hold the requests of `live`, each with its block of the arena. Only the slots in
use, the two counters, and `arena_wpos` and `arena_used` are read, so every
store elsewhere keeps it.
-/

namespace ReqRep

open CircularBuffer (Block Valid)

/-- A mapping whose queue the layout code accepts. -/
structure Shm.QueueOk (s : Shm) : Prop where
  reqCap : Words.PowerOfTwo s.reqCap
  arena : 0 < s.reqArenaCap.toNat

instance (s : Shm) : Decidable s.QueueOk :=
  decidable_of_iff (Words.PowerOfTwo s.reqCap ∧ 0 < s.reqArenaCap.toNat)
    ⟨fun h => ⟨h.1, h.2⟩, fun h => ⟨h.1, h.2⟩⟩

/-- A request in the queue, with its block of the arena. -/
abbrev Live := List (Request × Block)

/-- The ring index of the `k`th queued request. -/
def queueIndex (s : Shm) (m : Mem) (k : Nat) : UInt64 :=
  ringIndex s (m.u64 .hdrReqHead + UInt64.ofNat k)

/-- The ring from `req_head` to `req_tail` holds the requests `live` in order, each with its
block of the arena. -/
structure Ring (s : Shm) (m : Mem) (live : Live) : Prop where
  valid : Valid s.reqArenaCap.toNat 8 (m.u32 .hdrArenaWpos).toNat (m.u32 .hdrArenaUsed).toNat
    (live.map Prod.snd)
  tail_eq : m.u64 .hdrReqTail = m.u64 .hdrReqHead + UInt64.ofNat live.length
  bounded : live.length ≤ s.reqCap.toNat
  len_eq : ∀ rb ∈ live, rb.2.len = rb.1.data.length
  holds : ∀ k (h : k < live.length),
    SlotHolds s m (queueIndex s m k) live[k].1 live[k].2.off live[k].2.skip

/-- The queue of the mapping holds the requests `q`. -/
def Represents (s : Shm) (m : Mem) (q : List Request) : Prop :=
  ∃ live, Ring s m live ∧ live.map Prod.fst = q

/-- The words of the queue slot at a ring index. -/
def SlotField (idx : UInt64) : Loc32 → Prop
  | .reqSlotArenaOff i | .reqSlotPackedLen i | .reqSlotArenaSkip i
  | .reqSlotRespSlot i | .reqSlotRespGen i => i = idx
  | _ => False

variable {s : Shm} {m m' : Mem} {live : Live}

/-! ## Frames -/

/-- What a slot holds is in its fields and its bytes. -/
theorem SlotHolds.congr {idx : UInt64} {r : Request} {off skip : Nat}
    (holds : SlotHolds s m idx r off skip)
    (fields : ∀ l, SlotField idx l → m'.u32 l = m.u32 l)
    (bytes : ∀ j < r.data.length, m'.u8 (.arena (off + j)) = m.u8 (.arena (off + j))) :
    SlotHolds s m' idx r off skip where
  short := holds.short
  fits := holds.fits
  arenaOff := by rw [fields (.reqSlotArenaOff idx) rfl, holds.arenaOff]
  packedLen := by rw [fields (.reqSlotPackedLen idx) rfl, holds.packedLen]
  arenaSkip := by rw [fields (.reqSlotArenaSkip idx) rfl, holds.arenaSkip]
  respSlot := by rw [fields (.reqSlotRespSlot idx) rfl, holds.respSlot]
  respGen := by rw [fields (.reqSlotRespGen idx) rfl, holds.respGen]
  bytes := fun j bound => by rw [bytes j bound, holds.bytes j bound]

/-- What the ring invariant reads besides the accounting words. -/
structure SameSlots (s : Shm) (m m' : Mem) (live : Live) : Prop where
  fields : ∀ k < live.length, ∀ l, SlotField (queueIndex s m k) l → m'.u32 l = m.u32 l
  bytes : ∀ rb ∈ live, ∀ j < rb.1.data.length,
    m'.u8 (.arena (rb.2.off + j)) = m.u8 (.arena (rb.2.off + j))

theorem Ring.congr (ring : Ring s m live) (same : SameSlots s m m' live)
    (wpos : m'.u32 .hdrArenaWpos = m.u32 .hdrArenaWpos)
    (used : m'.u32 .hdrArenaUsed = m.u32 .hdrArenaUsed)
    (head : m'.u64 .hdrReqHead = m.u64 .hdrReqHead)
    (tail : m'.u64 .hdrReqTail = m.u64 .hdrReqTail) : Ring s m' live where
  valid := by
    rw [wpos, used]
    exact ring.valid
  tail_eq := by rw [tail, head, ring.tail_eq]
  bounded := ring.bounded
  len_eq := ring.len_eq
  holds := fun k bound => by
    have index : queueIndex s m' k = queueIndex s m k := by
      rw [queueIndex, queueIndex, head]
    rw [index]
    exact (ring.holds k bound).congr (same.fields k bound)
      (same.bytes _ (List.getElem_mem bound))

/-- The stores that the queue never reads. -/
def Write.Foreign : Write → Prop
  | .w32 l _ => l ≠ .hdrArenaWpos ∧ l ≠ .hdrArenaUsed ∧ ∀ idx, ¬ SlotField idx l
  | .w64 l _ => l ≠ .hdrReqHead ∧ l ≠ .hdrReqTail
  | .w8 l _ => ∀ k, l ≠ .arena k

theorem Ring.foreign (ring : Ring s m live) {w : Write} (foreign : w.Foreign) :
    Ring s (m.write w) live := by
  cases w with
  | w32 l v =>
    obtain ⟨wpos, used, field⟩ := foreign
    refine ring.congr ⟨?_, fun _ _ _ _ => rfl⟩ ?_ ?_ rfl rfl
    · intro k _ l' member
      have other : l' ≠ l := by
        rintro rfl
        exact field _ member
      simp [other]
    · simp [Ne.symm wpos]
    · simp [Ne.symm used]
  | w64 l v =>
    obtain ⟨head, tail⟩ := foreign
    exact ring.congr ⟨fun _ _ _ _ => rfl, fun _ _ _ _ => rfl⟩ rfl rfl
      (by simp [Ne.symm head]) (by simp [Ne.symm tail])
  | w8 l v =>
    refine ring.congr ⟨fun _ _ _ _ => rfl, ?_⟩ rfl rfl rfl rfl
    intro _ _ j _
    simp [Ne.symm (foreign _)]

/-! ## Counting -/

/-- The counter difference is the number of queued requests. -/
theorem Ring.count (ring : Ring s m live) :
    (m.u64 .hdrReqTail - m.u64 .hdrReqHead).toNat = live.length := by
  have := ring.bounded
  have := s.reqCap.toNat_lt
  rw [ring.tail_eq, UInt64.add_comm, UInt64.add_sub_cancel, UInt64.toNat_ofNat',
    Nat.mod_eq_of_lt (by omega)]

theorem Ring.empty_iff (ring : Ring s m live) :
    m.u64 .hdrReqTail = m.u64 .hdrReqHead ↔ live = [] := by
  have count := ring.count
  constructor
  · intro same
    rw [same, UInt64.sub_self] at count
    exact List.length_eq_zero_iff.mp count.symm
  · rintro rfl
    rw [ring.tail_eq]
    simp

/-- The check for a full queue, without a wrap. -/
theorem Ring.space_iff (ring : Ring s m live) :
    m.u64 .hdrReqTail - m.u64 .hdrReqHead < s.reqCap.toUInt64 ↔
      live.length < s.reqCap.toNat := by
  rw [UInt64.lt_iff_toNat_lt, ring.count, UInt32.toNat_toUInt64]

/-- The emptiness test of the allocator. -/
theorem Ring.isEmpty_eq (ring : Ring s m live) :
    decide (m.u64 .hdrReqTail = m.u64 .hdrReqHead) = (live.map Prod.snd).isEmpty := by
  have empty := ring.empty_iff
  cases live with
  | nil => simpa using empty
  | cons rb live => simpa using empty

/-- The ring indices of queued requests differ from each other and from the
next one. -/
theorem Ring.index_ne (ring : Ring s m live) (ok : s.QueueOk) {k : Nat}
    (bound : k < live.length) (space : live.length < s.reqCap.toNat) :
    queueIndex s m k ≠ ringIndex s (m.u64 .hdrReqTail) := by
  rw [ring.tail_eq]
  intro same
  have := ok.reqCap.index_inj _ (Nat.lt_trans bound space) space same
  omega

end ReqRep
