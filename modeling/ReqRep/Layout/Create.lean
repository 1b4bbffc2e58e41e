import ReqRep.Layout.Compute

/-!
# Creating a file

`openOrCreate` of `reqrep.go`, with calls to the system that succeed. What it
creates is well formed, and both validators accept it.
-/

namespace ReqRep

/-- `type Options`, without the field that nothing reads. -/
structure Options where
  reqCap : UInt32 := 0
  reqArenaCap : UInt32 := 0
  respSlots : UInt32 := 0
  respDataMax : UInt32 := 0
  deriving DecidableEq, Repr

/-- `nextPow2`. -/
def nextPow2 (v : UInt32) : UInt32 := if v < 2 then 2 else Words.smear (v - 1) + 1

/-- The parameters and the layout of a new file. -/
structure Creation where
  reqCap : UInt32
  respSlots : UInt32
  respDataMax : UInt32
  layout : MmapLayout
  deriving DecidableEq, Repr

/-- The arena size asked for, or the default. -/
def arenaHintOf (opts : Options) (reqCap : UInt32) : UInt64 :=
  if opts.reqArenaCap.toUInt64 = 0 then reqCap.toUInt64 * 256 else opts.reqArenaCap.toUInt64

/-- `openOrCreate` up to its first system call: the defaults, the guard and the
layout. -/
def plan (opts : Options) : Except String Creation :=
  let reqCap := if opts.reqCap = 0 then 256 else opts.reqCap
  let respDataMax := if opts.respDataMax = 0 then 4096 else opts.respDataMax
  if respDataMax > maxRespDataMax then
    .error s!"reqrep: RespDataMax {respDataMax} exceeds maximum ({maxRespDataMax})"
  else
  let reqCap := nextPow2 reqCap
  let respSlots := if opts.respSlots = 0 then reqCap else opts.respSlots
  match computeLayout reqCap respSlots respDataMax (arenaHintOf opts reqCap) with
  | .error e => .error e
  | .ok layout => .ok {
      reqCap := reqCap
      respSlots := respSlots
      respDataMax := respDataMax
      layout := layout }

/-- The stores of `initHeader` for a planned file. -/
def Creation.stores (c : Creation) : List HdrStore :=
  initHeader c.reqCap c.respSlots c.respDataMax c.layout

/-- A file: `st.Size` and its bytes. -/
structure File where
  size : UInt64
  bytes : Bytes

/-- What `open` with `O_CREAT` makes of a missing file. -/
def File.empty : File := ⟨0, fun _ => 0⟩

/-- `ftruncate` of an empty file. -/
def File.truncate (size : UInt64) : File := ⟨size, fun _ => 0⟩

/-- `isHeaderZero`: no byte of the header has been written. -/
def isHeaderZero (base : Bytes) : Bool :=
  (List.range layoutSizeofHeader.toNat).all fun k => base k = 0

/-- The bytes of a file that is created without interruption. -/
def createdBytes (c : Creation) : Bytes :=
  storeAll (File.truncate c.layout.totalSize).bytes c.stores

/-- `openOrCreate` on the file that `open` found or created: the file it maps. -/
def openOrCreate (path : String) (opts : Options) (file : File) : Except String File :=
  match plan opts with
  | .error e => .error e
  | .ok c =>
    if file.size = 0 then
      .ok ⟨c.layout.totalSize, createdBytes c⟩
    else if file.size < layoutSizeofHeader.toUInt64 then
      .error s!"reqrep: {path}: file too small ({file.size} bytes)"
    else if file.size > maxInt then
      .error s!"reqrep: {path}: file size {file.size} overflows int"
    else if isHeaderZero file.bytes ∧ file.size = c.layout.totalSize then
      .ok { file with bytes := storeAll file.bytes c.stores }
    else match validateHeader file.bytes file.size with
      | .error e => .error s!"reqrep: {path}: {e}"
      | .ok () => .ok file

/-! ## The header that is written -/

@[simp] theorem hdrField32_w32 (base : Bytes) (off : Nat) (v : UInt32) :
    hdrField32 (HdrStore.apply base (.w32 off v)) off = v := by
  apply UInt32.toNat_inj.mp
  rw [hdrField32, HdrStore.apply, LittleEndian.load_store, UInt32.toNat_ofNat']
  have := v.toNat_lt
  omega

@[simp] theorem hdrField64_w64 (base : Bytes) (off : Nat) (v : UInt64) :
    hdrField64 (HdrStore.apply base (.w64 off v)) off = v := by
  apply UInt64.toNat_inj.mp
  rw [hdrField64, HdrStore.apply, LittleEndian.load_store, UInt64.toNat_ofNat']
  have := v.toNat_lt
  omega

theorem hdrField32_w32_apart (base : Bytes) {off off' : Nat} (v : UInt32)
    (apart : off + 4 ≤ off' ∨ off' + 4 ≤ off) :
    hdrField32 (HdrStore.apply base (.w32 off' v)) off = hdrField32 base off :=
  congrArg UInt32.ofNat (LittleEndian.load_store_of_disjoint apart)

theorem hdrField32_w64_apart (base : Bytes) {off off' : Nat} (v : UInt64)
    (apart : off + 4 ≤ off' ∨ off' + 8 ≤ off) :
    hdrField32 (HdrStore.apply base (.w64 off' v)) off = hdrField32 base off :=
  congrArg UInt32.ofNat (LittleEndian.load_store_of_disjoint apart)

theorem hdrField64_w32_apart (base : Bytes) {off off' : Nat} (v : UInt32)
    (apart : off + 8 ≤ off' ∨ off' + 4 ≤ off) :
    hdrField64 (HdrStore.apply base (.w32 off' v)) off = hdrField64 base off :=
  congrArg UInt64.ofNat (LittleEndian.load_store_of_disjoint apart)

/-- The header describes a planned file. -/
structure HeaderHolds (base : Bytes) (c : Creation) : Prop where
  magic : hdrField32 base layoutHdrMagic = layoutMagic
  version : hdrField32 base layoutHdrVersion = layoutVersion
  mode : hdrField32 base layoutHdrMode = layoutModeStr
  reqCap : hdrField32 base layoutHdrReqCap = c.reqCap
  totalSize : hdrField64 base layoutHdrTotalSize = c.layout.totalSize
  reqSlotsOff : hdrField32 base layoutHdrReqSlotsOff = c.layout.reqSlotsOff
  reqArenaOff : hdrField32 base layoutHdrReqArenaOff = c.layout.reqArenaOff
  reqArenaCap : hdrField32 base layoutHdrReqArenaCap = c.layout.reqArenaCap
  respSlots : hdrField32 base layoutHdrRespSlots = c.respSlots
  respDataMax : hdrField32 base layoutHdrRespDataMax = c.respDataMax
  respOff : hdrField32 base layoutHdrRespOff = c.layout.respOff
  respStride : hdrField32 base layoutHdrRespStride = c.layout.respStride

/-- Whatever the bytes were before. -/
theorem stores_hold (base : Bytes) (c : Creation) : HeaderHolds (storeAll base c.stores) c := by
  constructor <;>
    simp (disch := decide) only [Creation.stores, initHeader, storeAll, List.foldl_cons,
      List.foldl_nil, hdrField32_w32, hdrField64_w64, hdrField32_w32_apart,
      hdrField32_w64_apart, hdrField64_w32_apart]

/-! ## What is planned -/

/-- The request capacity asked for, or the default. -/
def Options.requested (opts : Options) : Nat :=
  if opts.reqCap = 0 then 256 else opts.reqCap.toNat

/-- The smallest power of two that is large enough; 0 where it needs more than 32
bits. -/
theorem nextPow2_spec {v : UInt32} (nonzero : nextPow2 v ≠ 0) :
    IsLeast {p : Nat | (∃ k, p = 2 ^ k) ∧ max 2 v.toNat ≤ p} (nextPow2 v).toNat := by
  have two : (2 : UInt32).toNat = 2 := rfl
  have one : (1 : UInt32).toNat = 1 := rfl
  unfold nextPow2 at nonzero ⊢
  by_cases small : v < 2
  · rw [if_pos small, two]
    rw [UInt32.lt_iff_toNat_lt, two] at small
    refine ⟨⟨⟨1, rfl⟩, by omega⟩, ?_⟩
    rintro p ⟨-, least⟩
    omega
  · rw [if_neg small] at nonzero ⊢
    rw [UInt32.lt_iff_toNat_lt, two] at small
    have pred : (v - 1).toNat = v.toNat - 1 :=
      UInt32.toNat_sub_of_le _ _ (by rw [UInt32.le_iff_toNat_le, one]; omega)
    have predNonzero : v - 1 ≠ 0 := by
      intro zero
      have zero := congrArg UInt32.toNat zero
      rw [pred, UInt32.toNat_zero] at zero
      omega
    have smeared := Words.smear_toNat predNonzero
    rw [pred] at smeared
    generalize Words.smear (v - 1) = w at smeared nonzero ⊢
    generalize hm : (v.toNat - 1).log2 = m at smeared
    have above : v.toNat - 1 < 2 ^ (m + 1) := by
      rw [← hm]
      exact Nat.lt_log2_self
    have below : 2 ^ m ≤ v.toNat - 1 := by
      rw [← hm]
      exact Nat.log2_self_le (by omega)
    have value : (w + 1).toNat = 2 ^ (m + 1) := by
      have bound := w.toNat_lt
      have pow := Nat.two_pow_pos (m + 1)
      have sum : (w + 1).toNat = 2 ^ (m + 1) % 2 ^ 32 := by
        rw [UInt32.toNat_add, one, smeared, Nat.sub_add_cancel pow]
      rcases Nat.lt_or_ge (2 ^ (m + 1)) (2 ^ 32) with fits | wraps
      · rw [sum, Nat.mod_eq_of_lt fits]
      · refine absurd (UInt32.toNat_inj.mp ?_) nonzero
        have exact : 2 ^ (m + 1) = 2 ^ 32 := by omega
        rw [sum, exact]
        rfl
    rw [value]
    have double : 2 ^ (m + 1) = 2 * 2 ^ m := Nat.pow_succ'
    have := Nat.two_pow_pos m
    refine ⟨⟨⟨m + 1, rfl⟩, by omega⟩, ?_⟩
    rintro p ⟨⟨k, rfl⟩, least⟩
    have less : 2 ^ m < 2 ^ k := by omega
    exact Nat.pow_le_pow_right (by decide) ((Nat.pow_lt_pow_iff_right (by decide)).mp less)

/-- What a successful plan consists of. -/
theorem plan_ok {opts : Options} {c : Creation} (planned : plan opts = .ok c) :
    c.reqCap = nextPow2 (if opts.reqCap = 0 then 256 else opts.reqCap) ∧
      c.respDataMax ≤ maxRespDataMax ∧
      c.respSlots = (if opts.respSlots = 0 then c.reqCap else opts.respSlots) ∧
      computeLayout c.reqCap c.respSlots c.respDataMax (arenaHintOf opts c.reqCap) =
        .ok c.layout := by
  unfold plan at planned
  dsimp only at planned
  generalize (if opts.respDataMax = 0 then (4096 : UInt32) else opts.respDataMax) = respDataMax
    at planned
  split at planned
  · cases planned
  next bound =>
  split at planned
  · cases planned
  next layout computed =>
  obtain rfl := Except.ok.inj planned
  exact ⟨rfl, UInt32.not_lt.mp bound, rfl, computed⟩

/-- A file that `openOrCreate` may create: its capacity, the order of its regions,
its stride and size, and a header that the validators of both languages accept,
over whatever bytes it is written. -/
structure WellFormed (opts : Options) (c : Creation) : Prop where
  reqCap : IsLeast {p : Nat | (∃ k, p = 2 ^ k) ∧ max 2 opts.requested ≤ p} c.reqCap.toNat
  slots : c.layout.reqSlotsOff.toNat = 256
  arena : c.layout.reqSlotsOff.toNat + 24 * c.reqCap.toNat ≤ c.layout.reqArenaOff.toNat
  arenaAligned : 8 ∣ c.layout.reqArenaOff.toNat
  resp : c.layout.reqArenaOff.toNat + c.layout.reqArenaCap.toNat ≤ c.layout.respOff.toNat
  respAligned : 64 ∣ c.layout.respOff.toNat
  strideAligned : 64 ∣ c.layout.respStride.toNat
  stride : 32 + c.respDataMax.toNat ≤ c.layout.respStride.toNat
  size : c.layout.respOff.toNat + c.respSlots.toNat * c.layout.respStride.toNat =
    c.layout.totalSize.toNat
  sizeFits : c.layout.totalSize.toNat < 2 ^ 63
  accepted : ∀ base, validateHeader (storeAll base c.stores) c.layout.totalSize = .ok ()
  reference : ∀ base, reqrepValidateHeader (storeAll base c.stores) c.layout.totalSize = true

/-- A header with the values of a creation is accepted. -/
theorem HeaderHolds.accepted {base : Bytes} {c : Creation} (holds : HeaderHolds base c)
    (pow : Words.PowerOfTwo c.reqCap) (slotsOff : c.layout.reqSlotsOff = layoutSizeofHeader)
    (slots : c.respSlots ≠ 0) (stride : layoutSizeofRespSlot ≤ c.layout.respStride) :
    validateHeader base c.layout.totalSize = .ok () := by
  have capOk : ¬ (c.reqCap = 0 ∨ c.reqCap &&& (c.reqCap - 1) ≠ 0) :=
    not_or.mpr ⟨pow.nonzero, not_not.mpr pow.mask⟩
  unfold validateHeader
  dsimp only
  rw [holds.magic, holds.version, holds.mode, holds.reqCap, holds.totalSize, holds.reqSlotsOff,
    holds.respSlots, holds.respStride, if_neg (not_not.mpr rfl), if_neg (not_not.mpr rfl),
    if_neg (not_not.mpr rfl), if_neg capOk, if_neg (not_not.mpr rfl), if_neg (not_not.mpr slotsOff),
    if_neg slots, if_neg (UInt32.not_lt.mpr stride)]

/-- The C validator accepts it too. -/
private theorem HeaderHolds.reference {base : Bytes} {c : Creation} (holds : HeaderHolds base c)
    (pow : Words.PowerOfTwo c.reqCap) (slotsOff : c.layout.reqSlotsOff = layoutSizeofHeader)
    (slots : c.respSlots ≠ 0) (stride : layoutSizeofRespSlot ≤ c.layout.respStride)
    (slotsEnd : 256 + 24 * c.reqCap.toNat ≤ c.layout.reqArenaOff.toNat)
    (arenaEnd : c.layout.reqArenaOff.toNat + c.layout.reqArenaCap.toNat ≤ c.layout.respOff.toNat)
    (size : c.layout.respOff.toNat + c.respSlots.toNat * c.layout.respStride.toNat =
      c.layout.totalSize.toNat) :
    reqrepValidateHeader base c.layout.totalSize = true := by
  have capOk : ¬ (c.reqCap = 0 ∨ c.reqCap &&& (c.reqCap - 1) ≠ 0) :=
    not_or.mpr ⟨pow.nonzero, not_not.mpr pow.mask⟩
  have total := c.layout.totalSize.toNat_lt
  have cap := c.reqCap.toNat_lt
  -- the sums of the C checks, none of which wraps
  have slotsEnd64 : (layoutSizeofHeader.toUInt64 +
      c.reqCap.toUInt64 * layoutSizeofReqSlot.toUInt64).toNat = 256 + 24 * c.reqCap.toNat := by
    have header : layoutSizeofHeader.toUInt64.toNat = 256 := rfl
    have slot : layoutSizeofReqSlot.toUInt64.toNat = 24 := rfl
    rw [UInt64.toNat_add, UInt64.toNat_mul, header, slot, UInt32.toNat_toUInt64]
    omega
  have arenaEnd64 : (c.layout.reqArenaOff.toUInt64 + c.layout.reqArenaCap.toUInt64).toNat =
      c.layout.reqArenaOff.toNat + c.layout.reqArenaCap.toNat := by
    have := c.layout.respOff.toNat_lt
    rw [UInt64.toNat_add]
    simp only [UInt32.toNat_toUInt64]
    omega
  have respEnd64 : (c.layout.respOff.toUInt64 +
      c.respSlots.toUInt64 * c.layout.respStride.toUInt64).toNat = c.layout.totalSize.toNat := by
    rw [UInt64.toNat_add, UInt64.toNat_mul]
    simp only [UInt32.toNat_toUInt64]
    rw [Nat.mod_eq_of_lt (a := _ * _) (by omega), Nat.mod_eq_of_lt (by omega), size]
  unfold reqrepValidateHeader
  dsimp only
  rw [holds.magic, holds.version, holds.mode, holds.reqCap, holds.totalSize, holds.reqSlotsOff,
    holds.reqArenaOff, holds.reqArenaCap, holds.respSlots, holds.respOff, holds.respStride,
    slotsOff, if_neg (not_not.mpr rfl), if_neg (not_not.mpr rfl), if_neg (not_not.mpr rfl),
    if_neg capOk, if_neg (not_not.mpr rfl), if_neg (not_not.mpr rfl), if_neg slots,
    if_neg (UInt32.not_lt.mpr stride)]
  simp only [gt_iff_lt, UInt64.lt_iff_toNat_lt, slotsEnd64, arenaEnd64, respEnd64,
    UInt32.toNat_toUInt64]
  rw [if_neg (by omega), if_neg (by omega), if_neg (by omega), if_neg (by omega),
    if_neg (by omega), if_neg (by omega)]

/-- Every file that is created is well formed. -/
theorem created_wellFormed {opts : Options} {c : Creation} (planned : plan opts = .ok c) :
    WellFormed opts c := by
  obtain ⟨cap, bound, slots, computed⟩ := plan_ok planned
  obtain ⟨pow, fits, laid⟩ := computeLayout_ok bound computed
  have slotsOff : c.layout.reqSlotsOff.toNat = 256 := by
    rw [laid.reqSlotsOff]
    rfl
  have stride : 32 + c.respDataMax.toNat ≤ c.layout.respStride.toNat := by
    rw [laid.respStride]
    exact Words.le_roundUp (by decide) _
  have arena : 256 + 24 * c.reqCap.toNat ≤ c.layout.reqArenaOff.toNat := by
    rw [laid.reqArenaOff]
    exact Nat.le_refl _
  have resp : c.layout.reqArenaOff.toNat + c.layout.reqArenaCap.toNat ≤
      c.layout.respOff.toNat := by
    rw [laid.reqArenaOff, laid.reqArenaCap, laid.respOff]
    exact Words.le_roundUp (by decide) _
  have size : c.layout.respOff.toNat + c.respSlots.toNat * c.layout.respStride.toNat =
      c.layout.totalSize.toNat := by
    rw [laid.respOff, laid.respStride, laid.totalSize]
    rfl
  have someSlots : c.respSlots ≠ 0 := by
    rw [slots]
    split
    · exact pow.nonzero
    · assumption
  have wide : layoutSizeofRespSlot ≤ c.layout.respStride := by
    rw [UInt32.le_iff_toNat_le]
    exact Nat.le_trans (Nat.le_add_right 32 _) stride
  refine ⟨?_, slotsOff, by rw [slotsOff]; exact arena, ?_, resp, ?_, ?_, stride, size, ?_, ?_, ?_⟩
  · have least := nextPow2_spec (by rw [← cap]; exact pow.nonzero)
    rw [← cap] at least
    unfold Options.requested
    split at least
    · next zero => rwa [if_pos zero]
    · next nonzero => rwa [if_neg nonzero]
  · rw [laid.reqArenaOff]
    unfold arenaStart
    omega
  · rw [laid.respOff]
    exact Words.dvd_roundUp 64 _
  · rw [laid.respStride]
    exact Words.dvd_roundUp 64 _
  · rw [laid.totalSize]
    exact fits.total
  · exact fun base => (stores_hold base c).accepted pow laid.reqSlotsOff someSlots wide
  · exact fun base =>
      (stores_hold base c).reference pow laid.reqSlotsOff someSlots wide arena resp size

theorem created_wellFormed_default : ∃ c, plan {} = .ok c ∧ WellFormed {} c :=
  ⟨_, rfl, created_wellFormed rfl⟩

end ReqRep
