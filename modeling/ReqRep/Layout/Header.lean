import ReqRep.Misc.LittleEndian
import ReqRep.Misc.Words
import ReqRep.Shm.Memory

/-!
# The header and the layout of a file

`computeLayout`, `initHeader`, `validateHeader` and `setupShm` of `reqrep.go`,
over the bytes of a file, and their counterparts `reqrep_compute_layout` and
`reqrep_validate_header` of `gen/reqrep.h`. Words are little-endian and `int` and
`uintptr` have 64 bits.
-/

namespace ReqRep

/-! ## Constants of `reqrep_layout_gen.go` -/

/-- The magic number of a header, and the version and the mode that go with it. -/
def layoutMagic : UInt32 := 0x52525331
def layoutVersion : UInt32 := 1
def layoutModeStr : UInt32 := 0
/-- The sizes of the header, of a request slot and of the header of a response slot. -/
def layoutSizeofHeader : UInt32 := 256
def layoutSizeofReqSlot : UInt32 := 24
def layoutSizeofRespSlot : UInt32 := 32
/-- Where the data of a response slot begins in it. -/
def layoutRespDataStart : UInt32 := 32

/-- The offsets of the header words. -/
def layoutHdrMagic : Nat := 0
def layoutHdrVersion : Nat := 4
def layoutHdrMode : Nat := 8
def layoutHdrReqCap : Nat := 12
def layoutHdrTotalSize : Nat := 16
def layoutHdrReqSlotsOff : Nat := 24
def layoutHdrReqArenaOff : Nat := 28
def layoutHdrReqArenaCap : Nat := 32
def layoutHdrRespSlots : Nat := 36
def layoutHdrRespDataMax : Nat := 40
def layoutHdrRespOff : Nat := 44
def layoutHdrRespStride : Nat := 48

/-- `math.MaxUint32`. -/
def maxUint32 : UInt64 := 0xFFFFFFFF

/-- `math.MaxInt`. -/
def maxInt : UInt64 := 0x7FFFFFFFFFFFFFFF

/-! ## Header words -/

/-- The bytes of a file, or of a mapping of it, from its start. -/
abbrev Bytes := Nat → UInt8

/-- The 32-bit header word at an offset. -/
def hdrField32 (base : Bytes) (off : Nat) : UInt32 := UInt32.ofNat (LittleEndian.load base off 4)

/-- The 64-bit header word at an offset. -/
def hdrField64 (base : Bytes) (off : Nat) : UInt64 := UInt64.ofNat (LittleEndian.load base off 8)

/-- A store to a header word. -/
inductive HdrStore where
  | w32 (off : Nat) (v : UInt32)
  | w64 (off : Nat) (v : UInt64)
  deriving DecidableEq, Repr

/-- The bytes after a store. -/
def HdrStore.apply (base : Bytes) : HdrStore → Bytes
  | .w32 off v => LittleEndian.store base off 4 v.toNat
  | .w64 off v => LittleEndian.store base off 8 v.toNat

/-- The bytes after some stores, oldest first. -/
def storeAll (base : Bytes) (stores : List HdrStore) : Bytes := stores.foldl HdrStore.apply base

/-! ## Layout -/

/-- `type mmapLayout struct`: the offsets and the sizes of the regions. -/
structure MmapLayout where
  reqSlotsOff : UInt32
  reqArenaOff : UInt32
  reqArenaCap : UInt32
  respStride : UInt32
  respOff : UInt32
  totalSize : UInt64
  deriving DecidableEq, Repr

/-- `computeLayout`, with the texts of its errors. -/
def computeLayout (reqCap respSlots respDataMax : UInt32) (arenaHint : UInt64) :
    Except String MmapLayout :=
  if reqCap = 0 ∨ reqCap &&& (reqCap - 1) ≠ 0 then
    .error s!"reqrep: req_cap {reqCap} is not a power of 2"
  else
  let reqSlotsOff := layoutSizeofHeader
  let slotsEnd := reqSlotsOff.toUInt64 + reqCap.toUInt64 * layoutSizeofReqSlot.toUInt64
  let reqArenaOff64 := (slotsEnd + 7) &&& ~~~7
  if reqArenaOff64 > maxUint32 then
    .error "reqrep: layout overflow in req_arena_off"
  else
  let reqArenaOff := reqArenaOff64.toUInt32
  let reqArenaCap := arenaHint.toUInt32
  let reqArenaCap := if reqArenaCap < 4096 then 4096 else reqArenaCap
  let respStride := (layoutSizeofRespSlot + respDataMax + 63) &&& ~~~63
  let respOff64 := (reqArenaOff.toUInt64 + reqArenaCap.toUInt64 + 63) &&& ~~~63
  if respOff64 > maxUint32 then
    .error "reqrep: layout overflow in resp_off"
  else
  let totalSize := respOff64 + respSlots.toUInt64 * respStride.toUInt64
  if totalSize > maxInt then
    .error "reqrep: layout total size overflows int"
  else
  .ok {
    reqSlotsOff := reqSlotsOff
    reqArenaOff := reqArenaOff
    reqArenaCap := reqArenaCap
    respStride := respStride
    respOff := respOff64.toUInt32
    totalSize := totalSize }

/-- `reqrep_compute_layout` of the C library; `none` is its `-1`. The sum of the
stride has the width of `size_t`, the mask `~63u` that of `unsigned`. -/
def reqrepComputeLayout (reqCap respSlots respDataMax : UInt32) (arenaHint : UInt64) :
    Option MmapLayout :=
  let reqSlotsOff := layoutSizeofHeader
  let slotsEnd := reqSlotsOff.toUInt64 + reqCap.toUInt64 * layoutSizeofReqSlot.toUInt64
  let reqArenaOff64 := (slotsEnd + 7) &&& ~~~7
  if reqArenaOff64 > maxUint32 then none else
  let reqArenaOff := reqArenaOff64.toUInt32
  if arenaHint > maxUint32 then none else
  let reqArenaCap := arenaHint.toUInt32
  let reqArenaCap := if reqArenaCap < 4096 then 4096 else reqArenaCap
  let respStride := ((layoutSizeofRespSlot.toUInt64 + respDataMax.toUInt64 + 63) &&&
    (~~~(63 : UInt32)).toUInt64).toUInt32
  let respOff64 := (reqArenaOff.toUInt64 + reqArenaCap.toUInt64 + 63) &&& ~~~63
  if respOff64 > maxUint32 then none else
  some {
    reqSlotsOff := reqSlotsOff
    reqArenaOff := reqArenaOff
    reqArenaCap := reqArenaCap
    respStride := respStride
    respOff := respOff64.toUInt32
    totalSize := respOff64 + respSlots.toUInt64 * respStride.toUInt64 }

/-! ## The header -/

/-- The stores of `initHeader`, in program order. -/
def initHeader (reqCap respSlots respDataMax : UInt32) (l : MmapLayout) : List HdrStore :=
  [.w32 layoutHdrVersion layoutVersion,
   .w32 layoutHdrMode layoutModeStr,
   .w32 layoutHdrReqCap reqCap,
   .w64 layoutHdrTotalSize l.totalSize,
   .w32 layoutHdrReqSlotsOff l.reqSlotsOff,
   .w32 layoutHdrReqArenaOff l.reqArenaOff,
   .w32 layoutHdrReqArenaCap l.reqArenaCap,
   .w32 layoutHdrRespSlots respSlots,
   .w32 layoutHdrRespDataMax respDataMax,
   .w32 layoutHdrRespOff l.respOff,
   .w32 layoutHdrRespStride l.respStride,
   .w32 layoutHdrMagic layoutMagic]

/-- `fmt` of a word with `%08X`. -/
def hex08 (v : UInt32) : String :=
  String.ofList (List.leftpad 8 '0' ((Nat.toDigits 16 v.toNat).map Char.toUpper))

/-- `validateHeader`: the checks in the order of the source, each with its error. -/
def validateHeader (base : Bytes) (fileSize : UInt64) : Except String Unit :=
  let magic := hdrField32 base layoutHdrMagic
  let version := hdrField32 base layoutHdrVersion
  let mode := hdrField32 base layoutHdrMode
  let reqCap := hdrField32 base layoutHdrReqCap
  let totalSize := hdrField64 base layoutHdrTotalSize
  if magic ≠ layoutMagic then
    .error s!"reqrep: bad magic 0x{hex08 magic}"
  else if version ≠ layoutVersion then
    .error s!"reqrep: unsupported version {version}"
  else if mode ≠ layoutModeStr then
    .error s!"reqrep: expected string mode (0), got {mode}"
  else if reqCap = 0 ∨ reqCap &&& (reqCap - 1) ≠ 0 then
    .error s!"reqrep: req_cap {reqCap} is not a power of 2"
  else if totalSize ≠ fileSize then
    .error s!"reqrep: total_size {totalSize} != file size {fileSize}"
  else if hdrField32 base layoutHdrReqSlotsOff ≠ layoutSizeofHeader then
    .error "reqrep: unexpected req_slots_off"
  else if hdrField32 base layoutHdrRespSlots = 0 then
    .error "reqrep: resp_slots == 0"
  else if hdrField32 base layoutHdrRespStride < layoutSizeofRespSlot then
    .error "reqrep: resp_stride too small"
  else
    .ok ()

/-- `reqrep_validate_header` of the C library, in string mode. -/
def reqrepValidateHeader (base : Bytes) (fileSize : UInt64) : Bool :=
  let reqCap := hdrField32 base layoutHdrReqCap
  let totalSize := hdrField64 base layoutHdrTotalSize
  let reqSlotsOff := hdrField32 base layoutHdrReqSlotsOff
  let reqArenaOff := hdrField32 base layoutHdrReqArenaOff
  let reqArenaCap := hdrField32 base layoutHdrReqArenaCap
  let respSlots := hdrField32 base layoutHdrRespSlots
  let respOff := hdrField32 base layoutHdrRespOff
  let respStride := hdrField32 base layoutHdrRespStride
  let reqSlotsEnd := reqSlotsOff.toUInt64 + reqCap.toUInt64 * layoutSizeofReqSlot.toUInt64
  if hdrField32 base layoutHdrMagic ≠ layoutMagic then false
  else if hdrField32 base layoutHdrVersion ≠ layoutVersion then false
  else if hdrField32 base layoutHdrMode ≠ layoutModeStr then false
  else if reqCap = 0 ∨ reqCap &&& (reqCap - 1) ≠ 0 then false
  else if totalSize ≠ fileSize then false
  else if reqSlotsOff ≠ layoutSizeofHeader then false
  else if respSlots = 0 then false
  else if respStride < layoutSizeofRespSlot then false
  else if reqSlotsEnd > totalSize then false
  else if reqArenaOff.toUInt64 < reqSlotsEnd then false
  else if reqArenaOff.toUInt64 + reqArenaCap.toUInt64 > totalSize then false
  else if respOff.toUInt64 < reqArenaOff.toUInt64 + reqArenaCap.toUInt64 then false
  else if respOff.toUInt64 < reqSlotsEnd then false
  else if respOff.toUInt64 + respSlots.toUInt64 * respStride.toUInt64 > totalSize then false
  else true

/-- `type shm struct`, with the offsets that locate the regions. -/
structure Mapping extends Shm where
  mmapSize : UInt64
  respStride : UInt64
  slotsOff : UInt64
  arenaOff : UInt64
  respOff : UInt64

/-- `setupShm` reads the header words once, when the file is mapped. -/
def setupShm (base : Bytes) (size : UInt64) : Mapping where
  mmapSize := size
  reqCap := hdrField32 base layoutHdrReqCap
  reqArenaCap := hdrField32 base layoutHdrReqArenaCap
  respSlots := hdrField32 base layoutHdrRespSlots
  respDataMax := hdrField32 base layoutHdrRespDataMax
  respStride := (hdrField32 base layoutHdrRespStride).toUInt64
  slotsOff := (hdrField32 base layoutHdrReqSlotsOff).toUInt64
  arenaOff := (hdrField32 base layoutHdrReqArenaOff).toUInt64
  respOff := (hdrField32 base layoutHdrRespOff).toUInt64

end ReqRep
