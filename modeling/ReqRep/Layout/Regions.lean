import ReqRep.Layout.Create

/-!
# The regions of a mapping

Where the accessors of `reqrep_layout.go` point, as sets of byte offsets. For the
files that `openOrCreate` creates the regions lie in the file and apart from each
other; `validateHeader` accepts many headers for which they do not, since it
checks neither the offsets nor the capacities.
-/

namespace ReqRep

/-- `reqSlotPtr`, relative to the base. -/
def reqSlotPtr (slotsOff i : UInt64) : UInt64 := slotsOff + i * layoutSizeofReqSlot.toUInt64

/-- `respSlotPtr`, relative to the base. -/
def respSlotPtr (respOff stride i : UInt64) : UInt64 := respOff + i * stride

namespace Mapping

/-- The bytes of the header. -/
def headerBytes : Set Nat := Set.Ico 0 layoutSizeofHeader.toNat

/-- The bytes of request slot `i`. -/
def reqSlotBytes (s : Mapping) (i : UInt32) : Set Nat :=
  let slot := (reqSlotPtr s.slotsOff i.toUInt64).toNat
  Set.Ico slot (slot + layoutSizeofReqSlot.toNat)

/-- The bytes of the request arena. -/
def arenaBytes (s : Mapping) : Set Nat :=
  Set.Ico s.arenaOff.toNat (s.arenaOff.toNat + s.reqArenaCap.toNat)

/-- The header of a response slot and its data area. -/
def respSlotBytes (s : Mapping) (i : UInt32) : Set Nat :=
  let slot := (respSlotPtr s.respOff s.respStride i.toUInt64).toNat
  Set.Ico slot (slot + layoutRespDataStart.toNat + s.respDataMax.toNat)

/-- Every region lies in the mapping, and no two share a byte. -/
structure InPlace (s : Mapping) : Prop where
  reqSlot : ∀ i < s.reqCap, s.reqSlotBytes i ⊆ Set.Iio s.mmapSize.toNat
  arena : s.arenaBytes ⊆ Set.Iio s.mmapSize.toNat
  respSlot : ∀ i < s.respSlots, s.respSlotBytes i ⊆ Set.Iio s.mmapSize.toNat
  header_reqSlot : ∀ i < s.reqCap, Disjoint headerBytes (s.reqSlotBytes i)
  header_arena : Disjoint headerBytes s.arenaBytes
  header_respSlot : ∀ i < s.respSlots, Disjoint headerBytes (s.respSlotBytes i)
  reqSlot_arena : ∀ i < s.reqCap, Disjoint (s.reqSlotBytes i) s.arenaBytes
  reqSlot_respSlot : ∀ i < s.reqCap, ∀ j < s.respSlots,
    Disjoint (s.reqSlotBytes i) (s.respSlotBytes j)
  arena_respSlot : ∀ i < s.respSlots, Disjoint s.arenaBytes (s.respSlotBytes i)
  respSlot_respSlot : ∀ i < s.respSlots, ∀ j < s.respSlots, i ≠ j →
    Disjoint (s.respSlotBytes i) (s.respSlotBytes j)

/-- Where the request slots end. -/
def slotsEnd (s : Mapping) : Nat := 256 + 24 * s.reqCap.toNat

/-- Where response slot `i` begins, as a number. -/
def respStart (s : Mapping) (i : Nat) : Nat := s.respOff.toNat + i * s.respStride.toNat

/-- The bytes of a response slot that are used. -/
def respSize (s : Mapping) : Nat := 32 + s.respDataMax.toNat

/-- The bounds on the header words that `validateHeader` does not check. An arena
without bytes may be anywhere. -/
structure RegionsFit (s : Mapping) : Prop where
  slots : s.slotsEnd ≤ s.mmapSize.toNat
  arena : s.reqArenaCap = 0 ∨
    s.slotsEnd ≤ s.arenaOff.toNat ∧ s.arenaOff.toNat + s.reqArenaCap.toNat ≤ s.mmapSize.toNat
  resp : s.slotsEnd ≤ s.respOff.toNat
  respEnd : s.respStart (s.respSlots.toNat - 1) + s.respSize ≤ s.mmapSize.toNat
  stride : s.respSlots = 1 ∨ s.respSize ≤ s.respStride.toNat
  apart : s.reqArenaCap = 0 ∨ ∀ i < s.respSlots.toNat,
    s.arenaOff.toNat + s.reqArenaCap.toNat ≤ s.respStart i ∨
      s.respStart i + s.respSize ≤ s.arenaOff.toNat

/-- What `validateHeader` does check, of the words that `setupShm` caches; the
offsets and the stride come from 32-bit words. -/
structure Checked (s : Mapping) : Prop where
  slotsOff : s.slotsOff.toNat = 256
  cap : s.reqCap ≠ 0
  slots : s.respSlots ≠ 0
  stride : 32 ≤ s.respStride.toNat
  strideWord : s.respStride.toNat < 2 ^ 32
  respWord : s.respOff.toNat < 2 ^ 32

variable {s : Mapping}

/-! ## Intervals -/

private theorem ico_subset_iio {a b c : Nat} (nonempty : a < b) :
    Set.Ico a b ⊆ Set.Iio c ↔ b ≤ c := by
  constructor
  · intro inside
    have last : b - 1 < c := inside ⟨by omega, by omega⟩
    omega
  · intro le x inside
    exact Nat.lt_of_lt_of_le inside.2 le

private theorem ico_disjoint {a b c d : Nat} (first : a < b) (second : c < d) :
    Disjoint (Set.Ico a b) (Set.Ico c d) ↔ b ≤ c ∨ d ≤ a := by
  rw [Set.Ico_disjoint_Ico]
  omega

/-! ## The pointers do not wrap -/

private theorem pos_of_ne {x : UInt32} (nonzero : x ≠ 0) : 0 < x.toNat :=
  Nat.pos_of_ne_zero fun zero => nonzero (UInt32.toNat_inj.mp zero)

theorem Checked.reqSlotBytes (checked : Checked s) (i : UInt32) :
    s.reqSlotBytes i = Set.Ico (256 + 24 * i.toNat) (256 + 24 * i.toNat + 24) := by
  have := i.toNat_lt
  have size : layoutSizeofReqSlot.toUInt64.toNat = 24 := rfl
  have ptr : (reqSlotPtr s.slotsOff i.toUInt64).toNat = 256 + 24 * i.toNat := by
    rw [reqSlotPtr, UInt64.toNat_add, UInt64.toNat_mul, checked.slotsOff, size,
      UInt32.toNat_toUInt64]
    omega
  unfold Mapping.reqSlotBytes
  dsimp only
  rw [ptr]
  rfl

theorem Checked.respSlotBytes (checked : Checked s) {i : UInt32} (bound : i < s.respSlots) :
    s.respSlotBytes i = Set.Ico (s.respStart i.toNat) (s.respStart i.toNat + s.respSize) := by
  rw [UInt32.lt_iff_toNat_lt] at bound
  have slots := s.respSlots.toNat_lt
  have product : i.toNat * s.respStride.toNat ≤ (2 ^ 32 - 2) * (2 ^ 32 - 1) :=
    Nat.mul_le_mul (by omega) (Nat.le_pred_of_lt checked.strideWord)
  have resp := checked.respWord
  have ptr : (respSlotPtr s.respOff s.respStride i.toUInt64).toNat = s.respStart i.toNat := by
    rw [respSlotPtr, UInt64.toNat_add, UInt64.toNat_mul, UInt32.toNat_toUInt64, respStart]
    omega
  unfold Mapping.respSlotBytes
  dsimp only
  rw [ptr, Nat.add_assoc]
  rfl

/-! ## Bounds on the words -/

theorem respSize_pos (s : Mapping) : 0 < s.respSize :=
  Nat.lt_of_lt_of_le (by decide) (Nat.le_add_right 32 _)

/-- The header and the request slots fill everything up to their end. -/
private theorem Checked.filled (checked : Checked s) {p : Nat} (below : p < s.slotsEnd) :
    p ∈ headerBytes ∨ ∃ i < s.reqCap, p ∈ s.reqSlotBytes i := by
  unfold slotsEnd at below
  by_cases header : p < 256
  · exact .inl ⟨Nat.zero_le _, header⟩
  · have := s.reqCap.toNat_lt
    have index : (UInt32.ofNat ((p - 256) / 24)).toNat = (p - 256) / 24 := by
      rw [UInt32.toNat_ofNat']
      omega
    refine .inr ⟨UInt32.ofNat ((p - 256) / 24), ?_, ?_⟩
    · rw [UInt32.lt_iff_toNat_lt, index]
      omega
    · rw [checked.reqSlotBytes, index]
      exact ⟨by omega, by omega⟩

/-- A range apart from the header and all request slots begins behind them, because these
begin at 0 and leave no gap. -/
private theorem Checked.after (checked : Checked s) {a b : Nat} (nonempty : a < b)
    (header : Disjoint headerBytes (Set.Ico a b))
    (slots : ∀ i < s.reqCap, Disjoint (s.reqSlotBytes i) (Set.Ico a b)) : s.slotsEnd ≤ a := by
  have first : a ∈ Set.Ico a b := ⟨Nat.le_refl a, nonempty⟩
  by_contra before
  rcases checked.filled (Nat.not_le.mp before) with inside | ⟨i, bound, inside⟩
  · exact Set.disjoint_left.mp header inside first
  · exact Set.disjoint_left.mp (slots i bound) inside first

private theorem Checked.arena_pos (arena : s.reqArenaCap ≠ 0) :
    s.arenaOff.toNat < s.arenaOff.toNat + s.reqArenaCap.toNat :=
  Nat.lt_add_of_pos_right (pos_of_ne arena)

/-- Regions in place have words within the bounds. -/
theorem InPlace.regionsFit (checked : Checked s) (placed : s.InPlace) : s.RegionsFit := by
  have size := s.respSize_pos
  have capPos := pos_of_ne checked.cap
  have slotsPos := pos_of_ne checked.slots
  have zeroBound : (0 : UInt32) < s.respSlots := UInt32.lt_iff_toNat_lt.mpr slotsPos
  have slot : ∀ i : UInt32, s.respStart i.toNat < s.respStart i.toNat + s.respSize :=
    fun i => Nat.lt_add_of_pos_right size
  have start : s.respStart (0 : UInt32).toNat = s.respOff.toNat := by
    rw [respStart, UInt32.toNat_zero, Nat.zero_mul, Nat.add_zero]
  have ofNat : ∀ {i}, i < s.respSlots.toNat → (UInt32.ofNat i).toNat = i := by
    intro i bound
    have := s.respSlots.toNat_lt
    rw [UInt32.toNat_ofNat', Nat.mod_eq_of_lt (by omega)]
  have below : ∀ {i}, i < s.respSlots.toNat → UInt32.ofNat i < s.respSlots := by
    intro i bound
    rw [UInt32.lt_iff_toNat_lt, ofNat bound]
    exact bound
  constructor
  · have last := s.reqCap.toNat_lt
    have index : (UInt32.ofNat (s.reqCap.toNat - 1)).toNat = s.reqCap.toNat - 1 := by
      rw [UInt32.toNat_ofNat']
      omega
    have inside := placed.reqSlot (UInt32.ofNat (s.reqCap.toNat - 1))
      (by rw [UInt32.lt_iff_toNat_lt, index]; omega)
    rw [checked.reqSlotBytes, index, ico_subset_iio (by omega)] at inside
    unfold slotsEnd
    omega
  · by_cases empty : s.reqArenaCap = 0
    · exact .inl empty
    · have nonempty := Checked.arena_pos empty
      exact .inr ⟨checked.after nonempty placed.header_arena placed.reqSlot_arena,
        (ico_subset_iio nonempty).mp placed.arena⟩
  · have nonempty := slot 0
    have after := @Checked.after s checked _ _ nonempty
    rw [← checked.respSlotBytes zeroBound] at after
    rw [← start]
    exact after (placed.header_respSlot 0 zeroBound)
      fun i bound => placed.reqSlot_respSlot i bound 0 zeroBound
  · have last : s.respSlots.toNat - 1 < s.respSlots.toNat := by omega
    have inside := placed.respSlot _ (below last)
    rw [checked.respSlotBytes (below last), ofNat last, ico_subset_iio (by omega)] at inside
    exact inside
  · by_cases single : s.respSlots = 1
    · exact .inl single
    · have two : 1 < s.respSlots.toNat := by
        have : s.respSlots.toNat ≠ 1 := fun one => single (UInt32.toNat_inj.mp one)
        omega
      have oneBound : (1 : UInt32) < s.respSlots := UInt32.lt_iff_toNat_lt.mpr two
      have disjoint := placed.respSlot_respSlot 0 zeroBound 1 oneBound (by decide)
      rw [checked.respSlotBytes zeroBound, checked.respSlotBytes oneBound,
        ico_disjoint (slot 0) (slot 1), start] at disjoint
      have one : (1 : UInt32).toNat = 1 := rfl
      have stride := checked.stride
      rw [one, respStart] at disjoint
      exact .inr (by omega)
  · by_cases empty : s.reqArenaCap = 0
    · exact .inl empty
    · refine .inr fun i bound => ?_
      have disjoint := placed.arena_respSlot _ (below bound)
      rw [checked.respSlotBytes (below bound), ofNat bound] at disjoint
      exact (ico_disjoint (Checked.arena_pos empty) (by omega)).mp disjoint

/-- The slots follow each other at the stride. -/
private theorem respStart_mono (s : Mapping) {i j : Nat} (le : i ≤ j) :
    s.respStart i ≤ s.respStart j :=
  Nat.add_le_add_left (Nat.mul_le_mul_right _ le) _

private theorem respStart_succ (s : Mapping) (i : Nat) :
    s.respStart (i + 1) = s.respStart i + s.respStride.toNat := by
  unfold respStart
  rw [Nat.add_mul, Nat.one_mul, Nat.add_assoc]

/-- Words within the bounds put the regions in place. -/
theorem RegionsFit.inPlace (checked : Checked s) (fit : s.RegionsFit) : s.InPlace := by
  have size := s.respSize_pos
  have slots := fit.slots
  have resp := fit.resp
  have respEnd := fit.respEnd
  have slotEnd : ∀ {i : UInt32}, i < s.reqCap → 256 + 24 * i.toNat + 24 ≤ s.slotsEnd := by
    intro i bound
    rw [UInt32.lt_iff_toNat_lt] at bound
    unfold slotsEnd
    omega
  have start : ∀ i, s.slotsEnd ≤ s.respStart i := fun i => Nat.le_trans resp (Nat.le_add_right _ _)
  have header : 256 ≤ s.slotsEnd := Nat.le_add_right _ _
  have arena : ∀ {X : Set Nat}, (s.reqArenaCap ≠ 0 → Disjoint X s.arenaBytes) →
      Disjoint X s.arenaBytes := by
    intro X disjoint
    by_cases empty : s.reqArenaCap = 0
    · have none : s.arenaBytes = ∅ := by
        unfold arenaBytes
        rw [empty, UInt32.toNat_zero, Nat.add_zero, Set.Ico_self]
      rw [none]
      exact Set.disjoint_empty X
    · exact disjoint empty
  have headerEnd : headerBytes = Set.Ico 0 256 := rfl
  constructor
  · intro i bound
    rw [checked.reqSlotBytes, ico_subset_iio (by omega)]
    exact Nat.le_trans (slotEnd bound) slots
  · rcases fit.arena with empty | ⟨-, inside⟩
    · unfold arenaBytes
      rw [empty, UInt32.toNat_zero, Nat.add_zero, Set.Ico_self]
      exact Set.empty_subset _
    · exact fun x member => Nat.lt_of_lt_of_le member.2 inside
  · intro i bound
    rw [checked.respSlotBytes bound, ico_subset_iio (by omega)]
    rw [UInt32.lt_iff_toNat_lt] at bound
    have le := @respStart_mono s i.toNat (s.respSlots.toNat - 1) (by omega)
    omega
  · intro i bound
    rw [checked.reqSlotBytes, headerEnd, ico_disjoint (by decide) (by omega)]
    omega
  · refine arena fun some => ?_
    rw [headerEnd, arenaBytes, ico_disjoint (by decide) (Checked.arena_pos some)]
    have after := fit.arena.resolve_left some
    omega
  · intro i bound
    rw [checked.respSlotBytes bound, headerEnd, ico_disjoint (by decide) (by omega)]
    have := start i.toNat
    omega
  · intro i bound
    refine arena fun some => ?_
    rw [checked.reqSlotBytes, arenaBytes, ico_disjoint (by omega) (Checked.arena_pos some)]
    have after := fit.arena.resolve_left some
    have := slotEnd bound
    omega
  · intro i bound j below
    rw [checked.reqSlotBytes, checked.respSlotBytes below, ico_disjoint (by omega) (by omega)]
    have := slotEnd bound
    have := start j.toNat
    omega
  · intro i bound
    refine (arena fun some => ?_).symm
    rw [checked.respSlotBytes bound, arenaBytes,
      ico_disjoint (by omega) (Checked.arena_pos some)]
    exact ((fit.apart.resolve_left some) _ (UInt32.lt_iff_toNat_lt.mp bound)).symm
  · intro i bound j below ne
    rw [checked.respSlotBytes bound, checked.respSlotBytes below,
      ico_disjoint (by omega) (by omega)]
    rw [UInt32.lt_iff_toNat_lt] at bound below
    have other : i.toNat ≠ j.toNat := fun same => ne (UInt32.toNat_inj.mp same)
    have wide : s.respSize ≤ s.respStride.toNat := by
      refine fit.stride.resolve_left fun single => ?_
      rw [single] at bound below
      have one : (1 : UInt32).toNat = 1 := rfl
      omega
    rcases Nat.lt_or_gt_of_ne other with less | less
    · have le := s.respStart_mono less
      rw [Nat.succ_eq_add_one, respStart_succ] at le
      exact .inl (by omega)
    · have le := s.respStart_mono less
      rw [Nat.succ_eq_add_one, respStart_succ] at le
      exact .inr (by omega)

end Mapping

/-! ## Accepted headers -/

/-- What `validateHeader` makes sure of. -/
theorem checked_of_accepted {base : Bytes} {fileSize : UInt64}
    (accepted : validateHeader base fileSize = .ok ()) : (setupShm base fileSize).Checked := by
  unfold validateHeader at accepted
  dsimp only at accepted
  split at accepted
  · cases accepted
  split at accepted
  · cases accepted
  split at accepted
  · cases accepted
  split at accepted
  · cases accepted
  next cap =>
  split at accepted
  · cases accepted
  split at accepted
  · cases accepted
  next slotsOff =>
  split at accepted
  · cases accepted
  next slots =>
  split at accepted
  · cases accepted
  next stride =>
  have stride := UInt32.le_iff_toNat_le.mp (UInt32.not_lt.mp stride)
  constructor
  · change (hdrField32 base layoutHdrReqSlotsOff).toUInt64.toNat = 256
    rw [not_not.mp slotsOff]
    rfl
  · exact (not_or.mp cap).1
  · exact slots
  · change 32 ≤ (hdrField32 base layoutHdrRespStride).toUInt64.toNat
    rw [UInt32.toNat_toUInt64]
    exact stride
  · exact (hdrField32 base layoutHdrRespStride).toNat_lt
  · exact (hdrField32 base layoutHdrRespOff).toNat_lt

/-- An accepted file describes memory that is there, region by region, exactly
where its words are within the bounds that `validateHeader` leaves out. -/
theorem accepted_inPlace_iff (base : Bytes) (fileSize : UInt64) :
    (validateHeader base fileSize = .ok () → (setupShm base fileSize).InPlace) ↔
      (validateHeader base fileSize = .ok () → (setupShm base fileSize).RegionsFit) := by
  constructor
  · exact fun placed accepted => (placed accepted).regionsFit (checked_of_accepted accepted)
  · exact fun fit accepted => (fit accepted).inPlace (checked_of_accepted accepted)

/-- A file of 256 bytes whose header says that it has two request slots and a
response slot at offset 0. -/
def headerOnly : Creation where
  reqCap := 2
  respSlots := 1
  respDataMax := 0
  layout := {
    reqSlotsOff := 256
    reqArenaOff := 0
    reqArenaCap := 0
    respStride := 32
    respOff := 0
    totalSize := 256 }

theorem headerOnly_accepted : ∃ base, validateHeader base 256 = .ok () ∧
    ¬ (setupShm base 256).InPlace := by
  have holds := stores_hold (fun _ => 0) headerOnly
  have accepted : validateHeader (storeAll (fun _ => 0) headerOnly.stores) 256 = .ok () :=
    holds.accepted (by decide) rfl (by decide) (by decide)
  refine ⟨_, accepted, fun placed => ?_⟩
  have slots := (placed.regionsFit (checked_of_accepted accepted)).slots
  unfold Mapping.slotsEnd setupShm at slots
  dsimp only at slots
  rw [holds.reqCap] at slots
  exact absurd slots (by decide)

/-- The files that `openOrCreate` creates are within the bounds. -/
theorem created_inPlace {opts : Options} {c : Creation} (planned : plan opts = .ok c) :
    (setupShm (createdBytes c) c.layout.totalSize).InPlace := by
  have formed := created_wellFormed planned
  have holds : HeaderHolds (createdBytes c) c := stores_hold _ c
  have checked := checked_of_accepted (formed.accepted (fun _ => 0))
  refine Mapping.RegionsFit.inPlace checked ?_
  have slots := formed.slots
  have arena := formed.arena
  have resp := formed.resp
  have stride := formed.stride
  have size := formed.size
  have last : 0 < c.respSlots.toNat := by
    refine Nat.pos_of_ne_zero fun zero => checked.slots ?_
    rw [← holds.respSlots] at zero
    exact UInt32.toNat_inj.mp zero
  have step : (c.respSlots.toNat - 1) * c.layout.respStride.toNat + c.layout.respStride.toNat =
      c.respSlots.toNat * c.layout.respStride.toNat := by
    rw [← Nat.succ_mul, Nat.succ_eq_add_one, Nat.sub_add_cancel last]
  constructor <;>
    simp only [Mapping.slotsEnd, Mapping.respStart, Mapping.respSize, setupShm, holds.reqCap,
      holds.reqArenaOff, holds.reqArenaCap, holds.respSlots, holds.respDataMax, holds.respOff,
      holds.respStride, UInt32.toNat_toUInt64]
  · omega
  · exact .inr (by omega)
  · omega
  · omega
  · exact .inr stride
  · exact .inr fun i _ => .inl (Nat.le_trans resp (Nat.le_add_right _ _))

end ReqRep
