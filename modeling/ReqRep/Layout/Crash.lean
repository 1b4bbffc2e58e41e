import ReqRep.Layout.Create

/-!
# Creation cut short

The files that a crash inside `openOrCreate` leaves behind, and what the next
`openOrCreate` makes of them. Between the first store of `initHeader` and the
store of the magic the header is neither zero nor valid, and nothing ever
completes it.
-/

namespace ReqRep

/-- Where a creation stops: after the open with `O_CREAT`, after `ftruncate`, or
after the first `k` stores of `initHeader`. -/
inductive CrashPoint where
  | opened
  | truncated
  | stored (k : Nat)
  deriving DecidableEq, Repr

/-- The file that is left. -/
def crashFile (c : Creation) : CrashPoint → File
  | .opened => .empty
  | .truncated => .truncate c.layout.totalSize
  | .stored k => ⟨c.layout.totalSize,
      storeAll (File.truncate c.layout.totalSize).bytes (c.stores.take k)⟩

/-- The file of an uninterrupted creation. -/
def createdFile (c : Creation) : File := ⟨c.layout.totalSize, createdBytes c⟩

/-- The magic, the last store, has been made. -/
def CrashPoint.complete (c : Creation) : CrashPoint → Prop
  | .stored k => c.stores.length ≤ k
  | _ => False

/-- An incomplete file is rejected, and the next creation with the same options
succeeds and leaves the header of an uninterrupted one. -/
structure Survives (path : String) (opts : Options) (c : Creation) (p : CrashPoint) : Prop where
  rejected : ¬ p.complete c → validateHeader (crashFile c p).bytes (crashFile c p).size ≠ .ok ()
  recovers : ∃ file, openOrCreate path opts (crashFile c p) = .ok file ∧
    file.size = (createdFile c).size ∧
    ∀ k < layoutSizeofHeader.toNat, file.bytes k = (createdFile c).bytes k

variable {opts : Options} {c : Creation} {base : Bytes}

/-! ## Header words along the stores -/

/-- The store leaves the four bytes from `off` alone. -/
def HdrStore.Avoids (off : Nat) : HdrStore → Prop
  | .w32 off' _ => off + 4 ≤ off' ∨ off' + 4 ≤ off
  | .w64 off' _ => off + 4 ≤ off' ∨ off' + 8 ≤ off

theorem storeAll_avoids {off : Nat} {stores : List HdrStore}
    (avoids : ∀ st ∈ stores, st.Avoids off) :
    hdrField32 (storeAll base stores) off = hdrField32 base off := by
  induction stores generalizing base with
  | nil => rfl
  | cons st stores ih =>
    have rest := @ih (st.apply base) fun st' member => avoids st' (List.mem_cons_of_mem _ member)
    refine rest.trans ?_
    have here := avoids st List.mem_cons_self
    cases st with
    | w32 off' v => exact hdrField32_w32_apart base v here
    | w64 off' v => exact hdrField32_w64_apart base v here

theorem hdrField32_zero {off : Nat} (zero : ∀ k, off ≤ k → k < off + 4 → base k = 0) :
    hdrField32 base off = 0 := by
  rw [hdrField32, LittleEndian.load_zero zero]
  rfl

/-- The stores of `initHeader` before that of the magic. -/
private def fieldStores (c : Creation) : List HdrStore := c.stores.take 11

private theorem fieldStores_avoid {st : HdrStore} (member : st ∈ fieldStores c) :
    st.Avoids layoutHdrMagic := by
  simp only [fieldStores, Creation.stores, initHeader, List.take_succ_cons, List.take_zero,
    List.mem_cons, List.not_mem_nil, or_false] at member
  rcases member with rfl | rfl | rfl | rfl | rfl | rfl | rfl | rfl | rfl | rfl | rfl <;>
    exact .inl (by decide)

private theorem take_fieldStores {k : Nat} (incomplete : k < c.stores.length) :
    c.stores.take k = (fieldStores c).take k := by
  have length : c.stores.length = 12 := rfl
  rw [fieldStores, List.take_take, Nat.min_eq_left (by omega)]

/-- Until the last store the magic is 0. -/
theorem magic_zero {k : Nat} (incomplete : k < c.stores.length)
    (zero : ∀ k < 4, base k = 0) :
    hdrField32 (storeAll base (c.stores.take k)) layoutHdrMagic = 0 := by
  rw [take_fieldStores incomplete, storeAll_avoids]
  · exact hdrField32_zero fun k _ below => zero k below
  · exact fun st member => fieldStores_avoid (List.mem_of_mem_take member)

/-- From the first store on the version is there. -/
theorem version_stored {k : Nat} (some : 0 < k) :
    hdrField32 (storeAll base (c.stores.take k)) layoutHdrVersion = layoutVersion := by
  obtain ⟨k, rfl⟩ := Nat.exists_eq_succ_of_ne_zero some.ne'
  rw [Creation.stores, initHeader, List.take_succ_cons, storeAll, List.foldl_cons]
  refine (storeAll_avoids fun st member => ?_).trans (hdrField32_w32 _ _ _)
  have member := List.mem_of_mem_take member
  simp only [List.mem_cons, List.not_mem_nil, or_false] at member
  rcases member with rfl | rfl | rfl | rfl | rfl | rfl | rfl | rfl | rfl | rfl | rfl
  all_goals first
    | exact .inl (by decide)
    | exact .inr (by decide)

theorem isHeaderZero_iff : isHeaderZero base = true ↔ ∀ k < 256, base k = 0 := by
  have header : layoutSizeofHeader.toNat = 256 := rfl
  simp [isHeaderZero, header]

/-- A header whose version is there is not zero. -/
theorem not_isHeaderZero (version : hdrField32 base layoutHdrVersion = layoutVersion) :
    isHeaderZero base = false := by
  rw [← Bool.not_eq_true, isHeaderZero_iff]
  intro zero
  rw [hdrField32_zero fun k _ below => zero k (Nat.lt_trans below (by decide))] at version
  cases version

theorem validateHeader_of_magic {fileSize : UInt64} (magic : hdrField32 base layoutHdrMagic = 0) :
    ∃ e, validateHeader base fileSize = .error e := by
  unfold validateHeader
  dsimp only
  rw [magic, if_pos (by decide)]
  exact ⟨_, rfl⟩

/-! ## The next creation -/

private theorem size_accepted (planned : plan opts = .ok c) :
    c.layout.totalSize ≠ 0 ∧ ¬ c.layout.totalSize < layoutSizeofHeader.toUInt64 ∧
      ¬ c.layout.totalSize > maxInt := by
  have formed := created_wellFormed planned
  have header : layoutSizeofHeader.toUInt64.toNat = 256 := rfl
  have limit : maxInt.toNat = 2 ^ 63 - 1 := rfl
  have slots := formed.slots
  have arena := formed.arena
  have resp := formed.resp
  have size := formed.size
  have fits := formed.sizeFits
  refine ⟨fun zero => ?_, ?_, ?_⟩
  · rw [zero, UInt64.toNat_zero] at size
    omega
  · rw [UInt64.lt_iff_toNat_lt, header]
    omega
  · rw [gt_iff_lt, UInt64.lt_iff_toNat_lt, limit]
    omega

/-- A file of the right size is completed if its header is zero, else kept if it
is valid. -/
theorem openOrCreate_again (planned : plan opts = .ok c) (path : String) :
    openOrCreate path opts ⟨c.layout.totalSize, base⟩ =
      if isHeaderZero base then .ok ⟨c.layout.totalSize, storeAll base c.stores⟩
      else match validateHeader base c.layout.totalSize with
        | .error e => .error s!"reqrep: {path}: {e}"
        | .ok () => .ok ⟨c.layout.totalSize, base⟩ := by
  obtain ⟨nonzero, large, fits⟩ := size_accepted planned
  unfold openOrCreate
  rw [planned]
  dsimp only
  rw [if_neg nonzero, if_neg large, if_neg fits]
  cases validateHeader base c.layout.totalSize with
  | error e => simp only [and_true]
  | ok valid => simp only [and_true]

/-- A creation that stopped between its first and its last store blocks all later
ones. -/
theorem partial_blocks (planned : plan opts = .ok c) (path : String) {k : Nat} (some : 0 < k)
    (incomplete : k < c.stores.length) :
    ∃ e, openOrCreate path opts (crashFile c (.stored k)) = .error e := by
  have magic : hdrField32 (crashFile c (.stored k)).bytes layoutHdrMagic = 0 :=
    magic_zero incomplete fun _ _ => rfl
  have version : hdrField32 (crashFile c (.stored k)).bytes layoutHdrVersion = layoutVersion :=
    version_stored some
  obtain ⟨e, rejected⟩ := @validateHeader_of_magic _ c.layout.totalSize magic
  have blocked := @openOrCreate_again opts c (crashFile c (.stored k)).bytes planned path
  rw [not_isHeaderZero version, rejected] at blocked
  exact ⟨_, blocked⟩

/-- The crash is not between the first store of `initHeader` and the last. -/
def CrashPoint.Clean (c : Creation) : CrashPoint → Prop
  | .stored k => k = 0 ∨ c.stores.length ≤ k
  | _ => True

/-- Creation survives a crash exactly outside `initHeader`: before its first
store or after its last. -/
theorem creation_survives_iff (planned : plan opts = .ok c) (path : String) (p : CrashPoint) :
    Survives path opts c p ↔ p.Clean c := by
  have zeroed : openOrCreate path opts (File.truncate c.layout.totalSize) =
      .ok (createdFile c) := by
    have again := @openOrCreate_again opts c (fun _ => 0) planned path
    rw [if_pos (isHeaderZero_iff.mpr fun _ _ => rfl)] at again
    exact again
  have unmagic : ∀ size : UInt64, validateHeader (fun _ => 0) size ≠ .ok () := by
    intro size accepted
    obtain ⟨e, rejected⟩ := @validateHeader_of_magic (fun _ => 0) size
      (hdrField32_zero fun _ _ _ => rfl)
    rw [rejected] at accepted
    cases accepted
  cases p with
  | opened =>
    refine ⟨fun _ => trivial, fun _ => ⟨fun _ => unmagic _, createdFile c, ?_, rfl, fun _ _ => rfl⟩⟩
    unfold openOrCreate
    rw [planned]
    rfl
  | truncated =>
    exact ⟨fun _ => trivial,
      fun _ => ⟨fun _ => unmagic _, createdFile c, zeroed, rfl, fun _ _ => rfl⟩⟩
  | stored k =>
    constructor
    · intro survives
      by_contra unclean
      obtain ⟨some, incomplete⟩ := not_or.mp unclean
      obtain ⟨e, blocked⟩ := partial_blocks planned path (Nat.pos_of_ne_zero some)
        (Nat.not_le.mp incomplete)
      obtain ⟨file, recovered, -⟩ := survives.recovers
      rw [blocked] at recovered
      cases recovered
    · rintro (rfl | complete)
      · exact ⟨fun _ => unmagic _, createdFile c, zeroed, rfl, fun _ _ => rfl⟩
      · refine ⟨fun incomplete => absurd complete incomplete, createdFile c, ?_, rfl,
          fun _ _ => rfl⟩
        have all : crashFile c (.stored k) = createdFile c := by
          rw [crashFile, List.take_of_length_le complete, createdFile, createdBytes]
        have again := @openOrCreate_again opts c (createdFile c).bytes planned path
        have version : hdrField32 (createdFile c).bytes layoutHdrVersion = layoutVersion :=
          (stores_hold _ c).version
        have accepted : validateHeader (createdFile c).bytes c.layout.totalSize = .ok () :=
          (created_wellFormed planned).accepted _
        rw [not_isHeaderZero version, accepted] at again
        rw [all]
        exact again

/-- Crashes before `initHeader` and in the middle of it. -/
theorem creation_survives_iff_default : ∃ c, plan {} = .ok c ∧
    Survives "reqrep.shm" {} c .truncated ∧ ¬ Survives "reqrep.shm" {} c (.stored 7) := by
  refine ⟨_, rfl, (creation_survives_iff rfl _ .truncated).mpr trivial, fun survives => ?_⟩
  rcases (creation_survives_iff rfl _ (.stored 7)).mp survives with none | complete
  · cases none
  · revert complete
    decide

/-- A crash after the store of the version. -/
theorem crash_blocks_creation : ∃ c, plan {} = .ok c ∧
    (∃ e, openOrCreate "reqrep.shm" {} (crashFile c (.stored 1)) = .error e) ∧
      ¬ Survives "reqrep.shm" {} c (.stored 1) := by
  refine ⟨_, rfl, ?_, fun survives => ?_⟩
  · exact partial_blocks rfl "reqrep.shm" (by decide) (by decide)
  · obtain ⟨e, blocked⟩ := @partial_blocks {} _ rfl "reqrep.shm" 1 (by decide) (by decide)
    obtain ⟨file, recovered, -⟩ := survives.recovers
    rw [blocked] at recovered
    cases recovered

end ReqRep
