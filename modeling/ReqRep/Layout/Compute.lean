import ReqRep.Layout.Header

/-!
# What the layout code computes

`computeLayout` in natural numbers: when it succeeds, and with which offsets. The
C function it ports also refuses an arena that does not fit 32 bits, where Go
truncates its size.
-/

namespace ReqRep

open Words (roundUp)

/-- `maxRespDataMax` of `openOrCreate`. -/
def maxRespDataMax : UInt32 := 0xFFFFFFFF - layoutSizeofRespSlot - 63

/-- The arena capacity of a layout: the low 32 bits of the hint, at least 4096. -/
def arenaCapOf (arenaHint : UInt64) : Nat := max 4096 (arenaHint.toNat % 2 ^ 32)

/-- Where the arena begins. -/
def arenaStart (reqCap : UInt32) : Nat := 256 + 24 * reqCap.toNat

/-- Where the response slots begin. -/
def respStart (reqCap : UInt32) (arenaHint : UInt64) : Nat :=
  roundUp 64 (arenaStart reqCap + arenaCapOf arenaHint)

/-- The bytes of a response slot. -/
def strideOf (respDataMax : UInt32) : Nat := roundUp 64 (32 + respDataMax.toNat)

/-- The size of the file. -/
def sizeOf (reqCap respSlots respDataMax : UInt32) (arenaHint : UInt64) : Nat :=
  respStart reqCap arenaHint + respSlots.toNat * strideOf respDataMax

/-- The offsets fit 32 bits and the size an `int`. -/
structure LayoutFits (reqCap respSlots respDataMax : UInt32) (arenaHint : UInt64) : Prop where
  arena : arenaStart reqCap < 2 ^ 32
  resp : respStart reqCap arenaHint < 2 ^ 32
  total : sizeOf reqCap respSlots respDataMax arenaHint < 2 ^ 63

/-- A layout has the offsets above, with nothing lost in machine words. -/
structure Laid (reqCap respSlots respDataMax : UInt32) (arenaHint : UInt64) (l : MmapLayout) :
    Prop where
  reqSlotsOff : l.reqSlotsOff = layoutSizeofHeader
  reqArenaOff : l.reqArenaOff.toNat = arenaStart reqCap
  reqArenaCap : l.reqArenaCap.toNat = arenaCapOf arenaHint
  respStride : l.respStride.toNat = strideOf respDataMax
  respOff : l.respOff.toNat = respStart reqCap arenaHint
  totalSize : l.totalSize.toNat = sizeOf reqCap respSlots respDataMax arenaHint

variable {reqCap respSlots respDataMax : UInt32} {arenaHint : UInt64}

/-! ## The words of the computation -/

/-- The start of the arena does not wrap in 64 bits. -/
private theorem arenaOff64_toNat (reqCap : UInt32) :
    ((layoutSizeofHeader.toUInt64 + reqCap.toUInt64 * layoutSizeofReqSlot.toUInt64 + 7) &&&
      ~~~7).toNat = arenaStart reqCap := by
  have := reqCap.toNat_lt
  have header : layoutSizeofHeader.toUInt64.toNat = 256 := rfl
  have slot : layoutSizeofReqSlot.toUInt64.toNat = 24 := rfl
  have seven : (7 : UInt64).toNat = 7 := rfl
  rw [Words.and_compl_seven_toNat64, UInt64.toNat_add, UInt64.toNat_add, UInt64.toNat_mul, header,
    slot, seven, UInt32.toNat_toUInt64]
  unfold arenaStart
  omega

/-- The size of the arena: the hint cut to 32 bits, 4096 at least. -/
private theorem arenaCap_toNat (arenaHint : UInt64) :
    (if arenaHint.toUInt32 < 4096 then 4096 else arenaHint.toUInt32).toNat =
      arenaCapOf arenaHint := by
  have low : arenaHint.toUInt32.toNat = arenaHint.toNat % 2 ^ 32 := UInt64.toNat_toUInt32 _
  have least : (4096 : UInt32).toNat = 4096 := rfl
  unfold arenaCapOf
  split
  · next small =>
    rw [UInt32.lt_iff_toNat_lt, low, least] at small
    omega
  · next large =>
    rw [UInt32.lt_iff_toNat_lt, low, least] at large
    omega

private theorem stride_toNat (bound : respDataMax ≤ maxRespDataMax) :
    ((layoutSizeofRespSlot + respDataMax + 63) &&& ~~~63).toNat = strideOf respDataMax := by
  have limit : maxRespDataMax.toNat = 2 ^ 32 - 96 := rfl
  rw [UInt32.le_iff_toNat_le, limit] at bound
  have header : layoutSizeofRespSlot.toNat = 32 := rfl
  have mask : (63 : UInt32).toNat = 63 := rfl
  rw [Words.and_compl_sixtyThree_toNat, UInt32.toNat_add, UInt32.toNat_add, header, mask]
  unfold strideOf roundUp
  rw [Nat.mod_eq_of_lt (by omega), Nat.mod_eq_of_lt (by omega)]

private theorem respOff64_toNat {off cap : UInt32} :
    ((off.toUInt64 + cap.toUInt64 + 63) &&& ~~~63).toNat = roundUp 64 (off.toNat + cap.toNat) := by
  have := off.toNat_lt
  have := cap.toNat_lt
  have mask : (63 : UInt64).toNat = 63 := rfl
  rw [Words.and_compl_sixtyThree_toNat64, UInt64.toNat_add, UInt64.toNat_add, mask]
  simp only [UInt32.toNat_toUInt64]
  unfold roundUp
  rw [Nat.mod_eq_of_lt (by omega), Nat.mod_eq_of_lt (by omega)]

private theorem gt_maxUint32 (x : UInt64) : x > maxUint32 ↔ 2 ^ 32 ≤ x.toNat := by
  have limit : maxUint32.toNat = 2 ^ 32 - 1 := rfl
  rw [gt_iff_lt, UInt64.lt_iff_toNat_lt, limit]
  omega

private theorem gt_maxInt (x : UInt64) : x > maxInt ↔ 2 ^ 63 ≤ x.toNat := by
  have limit : maxInt.toNat = 2 ^ 63 - 1 := rfl
  rw [gt_iff_lt, UInt64.lt_iff_toNat_lt, limit]
  omega

/-- The stride stays below 2^32, so the product with any slot count does below
2^64. -/
private theorem strideOf_le (bound : respDataMax ≤ maxRespDataMax) :
    strideOf respDataMax ≤ 2 ^ 32 - 64 := by
  have limit : maxRespDataMax.toNat = 2 ^ 32 - 96 := rfl
  rw [UInt32.le_iff_toNat_le, limit] at bound
  unfold strideOf roundUp
  omega

/-- The size of the file does not wrap in 64 bits. -/
private theorem totalSize_toNat {slots stride : UInt32} (bound : stride.toNat ≤ 2 ^ 32 - 64)
    {off64 : UInt64} (resp : off64.toNat < 2 ^ 32) :
    (off64 + slots.toUInt64 * stride.toUInt64).toNat =
      off64.toNat + slots.toNat * stride.toNat := by
  have product : slots.toNat * stride.toNat ≤ (2 ^ 32 - 1) * (2 ^ 32 - 64) :=
    Nat.mul_le_mul (Nat.le_pred_of_lt slots.toNat_lt) bound
  rw [UInt64.toNat_add, UInt64.toNat_mul]
  simp only [UInt32.toNat_toUInt64]
  rw [Nat.mod_eq_of_lt (a := slots.toNat * stride.toNat) (by omega), Nat.mod_eq_of_lt (by omega)]

/-! ## The specification -/

/-- `computeLayout` refuses exactly what does not fit. -/
theorem computeLayout_spec (pow : Words.PowerOfTwo reqCap) (bound : respDataMax ≤ maxRespDataMax) :
    (LayoutFits reqCap respSlots respDataMax arenaHint ∧
      ∃ l, computeLayout reqCap respSlots respDataMax arenaHint = .ok l ∧
        Laid reqCap respSlots respDataMax arenaHint l) ∨
    (¬ LayoutFits reqCap respSlots respDataMax arenaHint ∧
      ∃ e, computeLayout reqCap respSlots respDataMax arenaHint = .error e) := by
  have arena := arenaOff64_toNat reqCap
  have cap := arenaCap_toNat arenaHint
  have stride := stride_toNat bound
  have strideLe := strideOf_le bound
  have accepted : ¬ (reqCap = 0 ∨ reqCap &&& (reqCap - 1) ≠ 0) := by
    rintro (zero | mask)
    · exact pow.nonzero zero
    · exact mask pow.mask
  unfold computeLayout
  rw [if_neg accepted]
  dsimp only
  generalize (layoutSizeofHeader.toUInt64 + reqCap.toUInt64 * layoutSizeofReqSlot.toUInt64 + 7) &&&
    ~~~7 = arenaOff64 at arena ⊢
  generalize (if arenaHint.toUInt32 < 4096 then (4096 : UInt32) else arenaHint.toUInt32) =
    arenaCap at cap ⊢
  generalize (layoutSizeofRespSlot + respDataMax + 63) &&& ~~~63 = respStride at stride ⊢
  by_cases arenaFits : arenaStart reqCap < 2 ^ 32
  · have off : arenaOff64.toUInt32.toNat = arenaStart reqCap := by
      rw [UInt64.toNat_toUInt32, arena, Nat.mod_eq_of_lt arenaFits]
    have resp := @respOff64_toNat arenaOff64.toUInt32 arenaCap
    rw [off, cap] at resp
    rw [if_neg (by rw [gt_maxUint32]; omega)]
    generalize (arenaOff64.toUInt32.toUInt64 + arenaCap.toUInt64 + 63) &&& ~~~63 =
      respOff64 at resp ⊢
    by_cases respFits : respStart reqCap arenaHint < 2 ^ 32
    · have respLt : respOff64.toNat < 2 ^ 32 := by
        rw [resp]
        exact respFits
      have total := @totalSize_toNat respSlots respStride (by rw [stride]; exact strideLe)
        respOff64 respLt
      rw [resp, stride] at total
      rw [if_neg (by rw [gt_maxUint32]; omega)]
      by_cases totalFits : sizeOf reqCap respSlots respDataMax arenaHint < 2 ^ 63
      · rw [if_neg (by rw [gt_maxInt, total]; exact Nat.not_le.mpr totalFits)]
        refine .inl ⟨⟨arenaFits, respFits, totalFits⟩, _, rfl, rfl, off, cap, stride, ?_, total⟩
        rw [UInt64.toNat_toUInt32, Nat.mod_eq_of_lt respLt, resp]
        rfl
      · rw [if_pos (by rw [gt_maxInt, total]; exact Nat.not_lt.mp totalFits)]
        exact .inr ⟨fun fits => totalFits fits.total, _, rfl⟩
    · rw [if_pos (by rw [gt_maxUint32, resp]; exact Nat.not_lt.mp respFits)]
      exact .inr ⟨fun fits => respFits fits.resp, _, rfl⟩
  · rw [if_pos (by rw [gt_maxUint32, arena]; exact Nat.not_lt.mp arenaFits)]
    exact .inr ⟨fun fits => arenaFits fits.arena, _, rfl⟩

/-- A layout that is returned is of a power of two, and as specified. -/
theorem computeLayout_ok (bound : respDataMax ≤ maxRespDataMax) {l : MmapLayout}
    (computed : computeLayout reqCap respSlots respDataMax arenaHint = .ok l) :
    Words.PowerOfTwo reqCap ∧ LayoutFits reqCap respSlots respDataMax arenaHint ∧
      Laid reqCap respSlots respDataMax arenaHint l := by
  have pow : Words.PowerOfTwo reqCap := by
    by_contra other
    have refused : reqCap = 0 ∨ reqCap &&& (reqCap - 1) ≠ 0 := by
      by_contra accepted
      rw [not_or, not_not] at accepted
      exact other ⟨accepted.1, accepted.2⟩
    unfold computeLayout at computed
    rw [if_pos refused] at computed
    cases computed
  rcases @computeLayout_spec reqCap respSlots respDataMax arenaHint pow bound with
    ⟨fits, l', same, laid⟩ | ⟨-, e, failed⟩
  · rw [computed] at same
    obtain rfl := Except.ok.inj same
    exact ⟨pow, fits, laid⟩
  · rw [computed] at failed
    cases failed

/-! ## The C layout -/

/-- The two strides are the same word. -/
private theorem stride_eq (respDataMax : UInt32) :
    ((layoutSizeofRespSlot.toUInt64 + respDataMax.toUInt64 + 63) &&&
      (~~~(63 : UInt32)).toUInt64).toUInt32 =
    (layoutSizeofRespSlot + respDataMax + 63) &&& ~~~63 := by
  rw [UInt64.toUInt32_and, UInt64.toUInt32_add, UInt64.toUInt32_add]
  simp only [UInt32.toUInt32_toUInt64]
  rfl

/-- Where the hint fits 32 bits, the C function computes what the Go one does. -/
theorem reqrepComputeLayout_of_ok (fits : arenaHint ≤ maxUint32) {l : MmapLayout}
    (computed : computeLayout reqCap respSlots respDataMax arenaHint = .ok l) :
    reqrepComputeLayout reqCap respSlots respDataMax arenaHint = some l := by
  unfold computeLayout at computed
  unfold reqrepComputeLayout
  dsimp only at computed ⊢
  rw [stride_eq, if_neg (UInt64.not_lt.mpr fits)]
  generalize (if arenaHint.toUInt32 < 4096 then (4096 : UInt32) else arenaHint.toUInt32) =
    arenaCap at computed ⊢
  split at computed
  · cases computed
  split at computed
  · cases computed
  next arena =>
  split at computed
  · cases computed
  next resp =>
  split at computed
  · cases computed
  rw [if_neg arena, if_neg resp]
  exact congrArg some (Except.ok.inj computed)

/-- A hint that does not fit is refused. -/
theorem reqrepComputeLayout_of_gt (large : arenaHint > maxUint32) :
    reqrepComputeLayout reqCap respSlots respDataMax arenaHint = none := by
  unfold reqrepComputeLayout
  dsimp only
  rw [if_pos large, ite_self]

/-- The Go layout is the C layout, with an arena of at least the size asked for,
exactly where the hint fits 32 bits or the layout does not fit although the hint
has been truncated. -/
theorem computeLayout_is_reference (pow : Words.PowerOfTwo reqCap)
    (bound : respDataMax ≤ maxRespDataMax) :
    (∀ l, computeLayout reqCap respSlots respDataMax arenaHint = .ok l →
      reqrepComputeLayout reqCap respSlots respDataMax arenaHint = some l ∧
        arenaHint ≤ l.reqArenaCap.toUInt64) ↔
    arenaHint ≤ maxUint32 ∨ ¬ LayoutFits reqCap respSlots respDataMax arenaHint := by
  constructor
  · intro agrees
    by_contra both
    rw [not_or, not_not] at both
    obtain ⟨large, fits⟩ := both
    rcases @computeLayout_spec reqCap respSlots respDataMax arenaHint pow bound with
      ⟨-, l, computed, -⟩ | ⟨unfit, -⟩
    · rw [reqrepComputeLayout_of_gt (UInt64.not_le.mp large)] at agrees
      cases (agrees l computed).1
    · exact unfit fits
  · intro within l computed
    obtain ⟨-, fits, laid⟩ := computeLayout_ok bound computed
    have small : arenaHint ≤ maxUint32 := within.resolve_right (not_not.mpr fits)
    refine ⟨reqrepComputeLayout_of_ok small computed, ?_⟩
    have limit : maxUint32.toNat = 2 ^ 32 - 1 := rfl
    rw [UInt64.le_iff_toNat_le, limit] at small
    rw [UInt64.le_iff_toNat_le, UInt32.toNat_toUInt64, laid.reqArenaCap]
    unfold arenaCapOf
    omega

theorem computeLayout_is_reference_default :
    ∃ l, computeLayout 256 256 4096 65536 = .ok l ∧
      reqrepComputeLayout 256 256 4096 65536 = some l ∧ (65536 : UInt64) ≤ l.reqArenaCap.toUInt64 :=
  ⟨_, rfl, (computeLayout_is_reference (by decide) (by decide)).mpr (.inl (by decide)) _ rfl⟩

/-- The default hint of 2^24 requests is 2^32: the low 32 bits are 0, and the file
gets the least arena. The C library refuses to create it. -/
theorem truncated_arena :
    ∃ l, computeLayout 0x1000000 1 4096 (0x1000000 * 256) = .ok l ∧ l.reqArenaCap = 4096 ∧
      reqrepComputeLayout 0x1000000 1 4096 (0x1000000 * 256) = none ∧
      ¬ (0x1000000 * 256 : UInt64) ≤ l.reqArenaCap.toUInt64 :=
  ⟨_, rfl, rfl, rfl, by decide⟩

end ReqRep
