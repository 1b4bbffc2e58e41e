import ReqRep.Queue.Invariant

/-!
# What sends and receives do to the queue

Every memory that a death inside `sendLocked` or `recvLocked` can leave behind,
the completed call among them, with two exceptions: between the stores of
`arena_wpos` and `arena_used` of a send into a nonempty queue, and between the
store of `arena_used` and the increment of `req_head` of a receive, the
accounting words do not cover the blocks in use.
-/

namespace ReqRep

open CircularBuffer (Block Valid Fits)

variable {s : Shm} {m : Mem} {live : Live} {r : Request}

/-- A death inside `sendLocked` that does not fall between the two accounting
stores while requests are queued. -/
def SafeSendCut (m : Mem) : List Write → Prop
  | .w32 .hdrArenaUsed _ :: _ => m.u64 .hdrReqTail = m.u64 .hdrReqHead
  | _ => True

/-- A death inside `recvLocked` that does not fall between the store of
`arena_used` and the increment of `req_head`. -/
def SafeRecvCut : List Write → Prop
  | .w32 .hdrArenaWpos _ :: _ => False
  | .w64 .hdrReqHead _ :: _ => False
  | _ => True

instance (m : Mem) (rest : List Write) : Decidable (SafeSendCut m rest) := by
  unfold SafeSendCut
  split <;> infer_instance

instance (rest : List Write) : Decidable (SafeRecvCut rest) := by
  unfold SafeRecvCut
  split <;> infer_instance

/-! ## Along a list of stores -/

/-- What every write keeps holds along all of them. -/
theorem Along.of_keeps {Q : Mem → Prop} {ws : List Write} (start : Q m)
    (keeps : ∀ w ∈ ws, ∀ m, Q m → Q (m.write w)) : Along (fun m _ => Q m) m ws := by
  induction ws generalizing m with
  | nil => exact start
  | cons w ws ih =>
    exact ⟨start, ih (keeps w List.mem_cons_self m start)
      fun w' member => keeps w' (List.mem_cons_of_mem _ member)⟩

/-- What holds along two lists of writes, one behind the other. -/
theorem Along.append {Q : Mem → Prop} {P : Mem → List Write → Prop} {ws ws' : List Write}
    (first : Along (fun m _ => Q m) m ws) (weaken : ∀ m rest, Q m → P m rest)
    (second : Along P (m.writeAll ws) ws') : Along P m (ws ++ ws') := by
  induction ws generalizing m with
  | nil => exact second
  | cons w ws ih => exact ⟨weaken _ _ first.1, ih first.2 second⟩

theorem Along.mono {P P' : Mem → List Write → Prop} {ws : List Write} (along : Along P m ws)
    (weaken : ∀ m rest, P m rest → P' m rest) : Along P' m ws := by
  induction ws generalizing m with
  | nil => exact weaken _ _ along
  | cons w ws ih => exact ⟨weaken _ _ along.1, ih along.2⟩

/-! ## Sending -/

/-- The arena stores, seen from the words and bytes the ring reads. -/
structure ArenaEffect (m m' : Mem) (data : List UInt8) (off skip base : Nat) : Prop where
  wpos : (m'.u32 .hdrArenaWpos).toNat = off + allocate data.length
  used : (m'.u32 .hdrArenaUsed).toNat = base + skip
  words : ∀ l, l ≠ .hdrArenaWpos → l ≠ .hdrArenaUsed → m'.u32 l = m.u32 l
  counters : m'.u64 = m.u64
  copied : ∀ j (h : j < data.length), m'.u8 (.arena (off + j)) = data[j]
  others : ∀ k, (k < off ∨ off + data.length ≤ k) → m'.u8 (.arena k) = m.u8 (.arena k)

/-- What the writes of `writeArenaLocked` do to the arena's words. -/
theorem arena_effect {data : List UInt8} {off skip base : Nat} {reset : List Write}
    (placed : Placed s m data off skip base reset) :
    ArenaEffect m (m.writeAll (arenaWrites data off skip base reset)) data off skip base := by
  have hoff := placed.off_lt
  have hused := placed.used_lt
  have resetBytes : (m.writeAll reset).u8 = m.u8 := by
    rcases placed.reset_eq with ⟨rfl, -⟩ | ⟨rfl, -, -⟩ <;> rfl
  have resetWords : ∀ l, l ≠ .hdrArenaWpos → l ≠ .hdrArenaUsed →
      (m.writeAll reset).u32 l = m.u32 l := by
    intro l wpos used
    rcases placed.reset_eq with ⟨rfl, -⟩ | ⟨rfl, -, -⟩
    · rfl
    · simp [wpos, used]
  constructor
  · simp only [arenaWrites, Mem.writeAll_append, Mem.writeAll_cons, Mem.writeAll_nil,
      Mem.write_w32, Mem.set32_u32, reduceCtorEq, if_false, if_true, UInt32.toNat_ofNat']
    exact Nat.mod_eq_of_lt hoff
  · simp only [arenaWrites, Mem.writeAll_append, Mem.writeAll_cons, Mem.writeAll_nil,
      Mem.write_w32, Mem.set32_u32, if_true, UInt32.toNat_ofNat']
    exact Nat.mod_eq_of_lt hused
  · intro l wpos used
    simp [arenaWrites, Mem.writeAll_append, wpos, used, resetWords]
  · exact arenaWrites_u64 placed
  · intro j bound
    have inj : ∀ i j, Loc8.arena i = Loc8.arena j → i = j := fun _ _ same => by
      injection same
    have copied := writeAll_copyWrites inj off (m.writeAll reset) bound
    simpa [arenaWrites, Mem.writeAll_append] using copied
  · intro k outside
    have untouched : ∀ v, .w8 (.arena k) v ∉ copyWrites .arena off data := by
      intro v member
      obtain ⟨j, _, low, high, same⟩ := mem_copyWrites member
      injection same with same _
      injection same with same
      omega
    have stays := Mem.writeAll_u8_of_not_mem untouched (m.writeAll reset)
    simpa [arenaWrites, Mem.writeAll_append, resetBytes] using stays

/-- The same requests on the lap of the new write position. -/
private def relocate (d : Int) (live : Live) : Live :=
  live.map fun rb => (rb.1, rb.2.shift d)

private theorem relocate_fst (d : Int) (live : Live) :
    (relocate d live).map Prod.fst = live.map Prod.fst := by
  simp [relocate]

private theorem relocate_snd (d : Int) (live : Live) :
    (relocate d live).map Prod.snd = (live.map Prod.snd).map (Block.shift d) := by
  simp [relocate, Function.comp_def]

/-- Clear of the copied bytes means that no live byte is among them. -/
private theorem apart_bytes {off len : Nat} {b : Block} (apart : b.Apart off len) {j : Nat}
    (bound : j < b.len) : b.off + j < off ∨ off + len ≤ b.off + j := by
  rcases apart with before | after <;> omega

/-- The ring after the arena stores, with the blocks in use on their new lap. -/
private theorem Ring.arena (ring : Ring s m live) {m' : Mem} {data : List UInt8}
    {off skip base : Nat} {d : Int} (effect : ArenaEffect m m' data off skip base)
    (valid : Valid s.reqArenaCap.toNat 8 (off + allocate data.length) (base + skip)
      ((live.map Prod.snd).map (Block.shift d)))
    (apart : ∀ b ∈ live.map Prod.snd, b.Apart off data.length) :
    Ring s m' (relocate d live) where
  valid := by
    rw [effect.wpos, effect.used, relocate_snd]
    exact valid
  tail_eq := by
    rw [effect.counters, ring.tail_eq, relocate, List.length_map]
  bounded := by
    rw [relocate, List.length_map]
    exact ring.bounded
  len_eq := by
    intro rb member
    obtain ⟨old, live, rfl⟩ := List.mem_map.mp member
    exact ring.len_eq old live
  holds := by
    intro k bound
    have bound : k < live.length := by
      rwa [relocate, List.length_map] at bound
    have index : queueIndex s m' k = queueIndex s m k := by
      rw [queueIndex, queueIndex, effect.counters]
    have member := List.getElem_mem bound
    simp only [relocate, List.getElem_map, Block.shift_off, Block.shift_skip]
    rw [index]
    refine (ring.holds k bound).congr ?_ ?_
    · intro l field
      refine effect.words l ?_ ?_ <;>
        · rintro rfl
          exact field
    · intro j inside
      rw [← ring.len_eq _ member] at inside
      exact effect.others _ (apart_bytes (apart _ (List.mem_map_of_mem member)) inside)

/-- Copying clear of the blocks in use keeps the ring. -/
private theorem Ring.copy (ring : Ring s m live) {data : List UInt8} {off : Nat}
    (apart : ∀ b ∈ live.map Prod.snd, b.Apart off data.length) {w : Write}
    (member : w ∈ copyWrites .arena off data) : Ring s (m.write w) live := by
  obtain ⟨k, v, low, high, rfl⟩ := mem_copyWrites member
  refine ring.congr ⟨fun _ _ _ _ => rfl, ?_⟩ rfl rfl rfl rfl
  intro rb live j inside
  rw [← ring.len_eq rb live] at inside
  have outside := apart_bytes (apart rb.2 (List.mem_map_of_mem live)) inside
  have other : Loc8.arena (rb.2.off + j) ≠ .arena k := by
    intro same
    injection same with same
    omega
  simp [other]

/-- The accounting words of an empty queue hold any value in range. -/
private theorem Ring.account_empty (ring : Ring s m []) {w : Write}
    (account : (∃ v : UInt32, w = .w32 .hdrArenaWpos v ∧ v.toNat < s.reqArenaCap.toNat + 8) ∨
      ∃ v, w = .w32 .hdrArenaUsed v) : Ring s (m.write w) [] := by
  rcases account with ⟨v, rfl, bound⟩ | ⟨v, rfl⟩
  · exact ⟨.nil _ (by simpa using bound), ring.tail_eq, ring.bounded, by simp, by simp⟩
  · exact ⟨.nil _ (by simpa using ring.valid.overshoot), ring.tail_eq, ring.bounded, by simp,
      by simp⟩

/-- Filling the next queue slot keeps the ring. -/
private theorem Ring.field (ring : Ring s m live) (ok : s.QueueOk)
    (space : live.length < s.reqCap.toNat) {l : Loc32} {v : UInt32}
    (field : SlotField (ringIndex s (m.u64 .hdrReqTail)) l) : Ring s (m.write (.w32 l v)) live := by
  refine ring.congr ⟨?_, fun _ _ _ _ => rfl⟩ ?_ ?_ rfl rfl
  · intro k bound l' used
    have other : l' ≠ l := by
      rintro rfl
      refine ring.index_ne ok bound space ?_
      cases l' <;> first | exact used.symm.trans field | exact used.elim
    simp [other]
  · have other : Loc32.hdrArenaWpos ≠ l := by
      rintro rfl
      exact field
    simp [other]
  · have other : Loc32.hdrArenaUsed ≠ l := by
      rintro rfl
      exact field
    simp [other]

private theorem mem_fieldWrites {idx : UInt64} {off skip : Nat} {w : Write}
    (member : w ∈ fieldWrites idx r off skip) : ∃ l v, w = .w32 l v ∧ SlotField idx l := by
  simp only [fieldWrites, List.mem_cons, List.not_mem_nil, or_false] at member
  rcases member with rfl | rfl | rfl | rfl | rfl <;> exact ⟨_, _, rfl, rfl⟩

/-- Incrementing `req_tail` puts the filled slot into the ring. -/
private theorem Ring.publish (ring : Ring s m live) (space : live.length < s.reqCap.toNat)
    {b : Block} (len : b.len = r.data.length)
    (valid : Valid s.reqArenaCap.toNat 8 (m.u32 .hdrArenaWpos).toNat
      (m.u32 .hdrArenaUsed).toNat ((live ++ [(r, b)]).map Prod.snd))
    (holds : SlotHolds s m (ringIndex s (m.u64 .hdrReqTail)) r b.off b.skip) :
    Ring s (m.write (.w64 .hdrReqTail (m.u64 .hdrReqTail + 1))) (live ++ [(r, b)]) where
  valid := valid
  tail_eq := by
    have := ring.tail_eq
    simp only [Mem.write_w64, Mem.set64_u64, if_true, reduceCtorEq, if_false, List.length_append,
      List.length_singleton, this, UInt64.ofNat_add, UInt64.add_assoc]
    rfl
  bounded := by
    rw [List.length_append, List.length_singleton]
    exact space
  len_eq := by
    intro rb member
    rcases List.mem_append.mp member with old | new
    · exact ring.len_eq rb old
    · obtain rfl := List.mem_singleton.mp new
      exact len
  holds := by
    intro k bound
    have index : queueIndex s (m.write (.w64 .hdrReqTail (m.u64 .hdrReqTail + 1))) k =
        queueIndex s m k := by
      simp [queueIndex]
    rw [index]
    rcases Nat.lt_or_ge k live.length with old | new
    · rw [List.getElem_append_left old]
      exact (ring.holds k old).congr (fun _ _ => rfl) fun _ _ => rfl
    · have last : k = live.length := by
        rw [List.length_append, List.length_singleton] at bound
        omega
      subst last
      have here : queueIndex s m live.length = ringIndex s (m.u64 .hdrReqTail) := by
        rw [queueIndex, ring.tail_eq]
      rw [here]
      simp only [List.getElem_append_right (Nat.le_refl _), Nat.sub_self, List.getElem_cons_zero]
      exact holds.congr (fun _ _ => rfl) fun _ _ => rfl

/-- The queue after a death inside a send: the request is in it from the
increment of `req_tail` on. -/
def SendLeaves (s : Shm) (m : Mem) (r : Request) (q : List Request) (m' : Mem) : Prop :=
  Represents s m' (if m'.u64 .hdrReqTail = m.u64 .hdrReqTail then q else q ++ [r])

private theorem tail_moves (tail : UInt64) : tail + 1 ≠ tail := by
  intro same
  have := congrArg UInt64.toNat same
  rw [UInt64.toNat_add] at this
  have := tail.toNat_lt
  simp only [UInt64.reduceToNat] at *
  omega

/-- From filling the slot to the end. -/
private theorem publish_along (ok : s.QueueOk) (m₀ : Mem) (ring : Ring s m live)
    (space : live.length < s.reqCap.toNat) (b : Block) (short : Short r.data)
    (skip : b.skip < 2 ^ 32) (off : b.off < 2 ^ 32)
    (fits : b.off + r.data.length ≤ s.reqArenaCap.toNat) (len : b.len = r.data.length)
    (valid : Valid s.reqArenaCap.toNat 8 (m.u32 .hdrArenaWpos).toNat
      (m.u32 .hdrArenaUsed).toNat ((live ++ [(r, b)]).map Prod.snd))
    (copied : ∀ j (h : j < r.data.length), m.u8 (.arena (b.off + j)) = r.data[j])
    (counters : m.u64 = m₀.u64) :
    Along (fun m' _ => SendLeaves s m₀ r (live.map Prod.fst) m') m
      (fieldWrites (ringIndex s (m₀.u64 .hdrReqTail)) r b.off b.skip ++
        [.w64 .hdrReqTail (m₀.u64 .hdrReqTail + 1),
         .w64 .hdrStatRequests (m₀.u64 .hdrStatRequests + 1)]) := by
  have fill : Along (fun m' _ => Ring s m' live ∧ m'.u64 = m₀.u64) m
      (fieldWrites (ringIndex s (m₀.u64 .hdrReqTail)) r b.off b.skip) := by
    refine .of_keeps ⟨ring, counters⟩ ?_
    intro w member m' ⟨ring', counters'⟩
    obtain ⟨l, v, rfl, field⟩ := mem_fieldWrites member
    refine ⟨ring'.field ok space ?_, counters'⟩
    rw [counters']
    exact field
  have keep : ∀ m', Ring s m' live ∧ m'.u64 = m₀.u64 →
      SendLeaves s m₀ r (live.map Prod.fst) m' := by
    intro m' ⟨ring', counters'⟩
    rw [SendLeaves, if_pos (by rw [counters'])]
    exact ⟨live, ring', rfl⟩
  refine fill.append (fun m' _ => keep m') ?_
  have filled := fill.final
  generalize done : m.writeAll (fieldWrites (ringIndex s (m₀.u64 .hdrReqTail)) r b.off b.skip) =
    m₁ at *
  obtain ⟨ring₁, counters₁⟩ := filled
  have holds : SlotHolds s m₁ (ringIndex s (m₁.u64 .hdrReqTail)) r b.off b.skip := by
    rw [counters₁, ← done]
    refine ⟨short, fits, ?_, ?_, ?_, ?_, ?_, ?_⟩
    · simpa [fieldWrites] using off
    · have bound : r.data.length < 2 ^ 32 := by
        have : layoutStrLenMask.toNat = 2 ^ 31 - 1 := rfl
        unfold Short at short
        omega
      simpa [fieldWrites] using bound
    · simpa [fieldWrites] using skip
    · simp [fieldWrites]
    · simp [fieldWrites]
    · intro j bound
      simpa [fieldWrites] using copied j bound
  have words : m₁.u32 .hdrArenaWpos = m.u32 .hdrArenaWpos ∧
      m₁.u32 .hdrArenaUsed = m.u32 .hdrArenaUsed := by
    rw [← done]
    simp [fieldWrites]
  have published : Ring s (m₁.write (.w64 .hdrReqTail (m₀.u64 .hdrReqTail + 1)))
      (live ++ [(r, b)]) := by
    have published := ring₁.publish space len (by rw [words.1, words.2]; exact valid) holds
    rwa [counters₁] at published
  have after : ∀ m', Ring s m' (live ++ [(r, b)]) →
      m'.u64 .hdrReqTail = m₀.u64 .hdrReqTail + 1 →
      SendLeaves s m₀ r (live.map Prod.fst) m' := by
    intro m' ring' moved
    rw [SendLeaves, if_neg (by rw [moved]; exact tail_moves _)]
    exact ⟨_, ring', by simp⟩
  refine ⟨keep m₁ ⟨ring₁, counters₁⟩, after _ published (by simp), after _ ?_ (by simp)⟩
  exact published.foreign ⟨by decide, by decide⟩

/-- Every memory a death inside `sendLocked` leaves behind. -/
theorem send_along (ok : s.QueueOk) {q : List Request} (queue : Represents s m q) {sent : Bool}
    {ws : List Write} (short : Short r.data) (outcome : Sent s m r sent ws) :
    Along (fun m' rest => SafeSendCut m' rest → SendLeaves s m r q m') m ws := by
  obtain ⟨live, ring, rfl⟩ := queue
  have keep : ∀ m', Ring s m' live ∧ m'.u64 .hdrReqTail = m.u64 .hdrReqTail →
      SendLeaves s m r (live.map Prod.fst) m' := by
    rintro m' ⟨ring', same⟩
    rw [SendLeaves, if_pos same]
    exact ⟨live, ring', rfl⟩
  have foreign : ∀ v, Ring s (m.write (.w64 .hdrStatSendFull v)) live := fun v =>
    ring.foreign ⟨by decide, by decide⟩
  cases outcome with
  | queueFull full => exact ⟨fun _ => keep m ⟨ring, rfl⟩, fun _ => keep _ ⟨foreign _, by simp⟩⟩
  | refused space refused =>
    cases refused with
    | tooLong long => exact fun _ => keep m ⟨ring, rfl⟩
    | full room refused =>
      exact ⟨fun _ => keep m ⟨ring, rfl⟩, fun _ => keep _ ⟨foreign _, by simp⟩⟩
  | @sent off skip base reset space placed =>
    have space := ring.space_iff.mp space
    have fits := allocate_fits ok.arena placed.room
    have free := placed.placed
    rw [ring.isEmpty_eq] at free
    obtain ⟨d, pos, valid, apart⟩ := ring.valid.place fits free
    have bounds := CircularBuffer.place_bounds fits ring.valid.overshoot free
    have effect := arena_effect placed
    have ring' := ring.arena effect valid.of_append apart
    have rest := publish_along ok m ring' (by rwa [relocate, List.length_map])
      ⟨off, r.data.length, allocate r.data.length, skip, pos⟩ short
      (by have := placed.used_lt; dsimp only; omega)
      (by have := placed.off_lt; dsimp only; omega) bounds.1 rfl
      (by
        rw [effect.wpos, effect.used, List.map_append, relocate_snd]
        exact valid)
      effect.copied effect.counters
    rw [relocate_fst] at rest
    have split : sendWrites s m r off skip base reset = reset ++ (copyWrites .arena off r.data ++
        (.w32 .hdrArenaWpos (UInt32.ofNat (off + allocate r.data.length)) ::
          .w32 .hdrArenaUsed (UInt32.ofNat (base + skip)) ::
          (fieldWrites (ringIndex s (m.u64 .hdrReqTail)) r off skip ++
            [.w64 .hdrReqTail (m.u64 .hdrReqTail + 1),
             .w64 .hdrStatRequests (m.u64 .hdrStatRequests + 1)]))) := by
      simp [sendWrites, arenaWrites]
    rw [split]
    have resetting : Along (fun m' _ => Ring s m' live ∧ m'.u64 = m.u64) m reset := by
      rcases placed.reset_eq with ⟨rfl, -⟩ | ⟨rfl, -, empty⟩
      · exact ⟨ring, rfl⟩
      · obtain rfl := ring.empty_iff.mp empty
        have zero : (0 : UInt32).toNat < s.reqArenaCap.toNat + 8 := by simp
        have wpos := ring.account_empty (.inl ⟨0, rfl, zero⟩)
        exact ⟨⟨ring, rfl⟩, ⟨wpos, rfl⟩, ⟨wpos.account_empty (.inr ⟨0, rfl⟩), rfl⟩⟩
    have copying : Along (fun m' _ => Ring s m' live ∧ m'.u64 = m.u64) (m.writeAll reset)
        (copyWrites .arena off r.data) := by
      refine .of_keeps resetting.final ?_
      rintro w member m' ⟨ring', same⟩
      refine ⟨ring'.copy apart member, ?_⟩
      obtain ⟨_, _, _, _, rfl⟩ := mem_copyWrites member
      exact same
    have committed : (((m.writeAll reset).writeAll (copyWrites .arena off r.data)).write
        (.w32 .hdrArenaWpos (UInt32.ofNat (off + allocate r.data.length)))).write
        (.w32 .hdrArenaUsed (UInt32.ofNat (base + skip))) =
        m.writeAll (arenaWrites r.data off skip base reset) := by
      simp [arenaWrites, Mem.writeAll_append]
    obtain ⟨copied, same⟩ := copying.final
    have weaken : ∀ m' rest, Ring s m' live ∧ m'.u64 = m.u64 → SafeSendCut m' rest →
        SendLeaves s m r (live.map Prod.fst) m' :=
      fun m' _ moved _ => keep m' ⟨moved.1, by rw [moved.2]⟩
    refine resetting.append weaken (copying.append weaken ⟨weaken _ _ ⟨copied, same⟩, ?_, ?_⟩)
    · intro safe
      have empty := copied.empty_iff.mp safe
      subst empty
      have bound : (UInt32.ofNat (off + allocate r.data.length)).toNat <
          s.reqArenaCap.toNat + 8 := by
        rw [UInt32.toNat_ofNat', Nat.mod_eq_of_lt placed.off_lt]
        exact bounds.2.1
      exact keep _ ⟨copied.account_empty (.inl ⟨_, rfl, bound⟩), by
        rw [Mem.write_w32, Mem.set32_u64, same]⟩
    · rw [committed]
      exact rest.mono fun _ _ left _ => left

/-! ## Receiving -/

/-- The queue after a death inside a receive: the request is in it up to the
increment of `req_head`. -/
def RecvLeaves (s : Shm) (m : Mem) (q : List Request) (m' : Mem) : Prop :=
  Represents s m' (if m'.u64 .hdrReqHead = m.u64 .hdrReqHead then q else q.tail)

/-- The release, seen from the words the ring reads. -/
structure ReleaseEffect (m m' : Mem) (skip : Nat) : Prop where
  used : (m'.u32 .hdrArenaUsed).toNat = (m.u32 .hdrArenaUsed).toNat - skip
  wpos : m'.u32 .hdrArenaWpos = m.u32 .hdrArenaWpos ∨
    (m'.u32 .hdrArenaWpos = 0 ∧ (m'.u32 .hdrArenaUsed).toNat = 0)
  reset : (m'.u32 .hdrArenaUsed).toNat = 0 → m'.u32 .hdrArenaWpos = 0
  words : ∀ l, l ≠ .hdrArenaWpos → l ≠ .hdrArenaUsed → m'.u32 l = m.u32 l
  counters : m'.u64 = m.u64
  bytes : m'.u8 = m.u8

/-- What the writes of `releaseArenaLocked` do to the arena's words. -/
theorem release_effect {skip : UInt32} (charged : skip.toNat ≤ (m.u32 .hdrArenaUsed).toNat) :
    ReleaseEffect m (m.writeAll (releaseWrites m skip)) skip.toNat := by
  have ge : m.u32 .hdrArenaUsed ≥ skip := UInt32.le_iff_toNat_le.mpr charged
  have sub : (m.u32 .hdrArenaUsed - skip).toNat = (m.u32 .hdrArenaUsed).toNat - skip.toNat :=
    UInt32.toNat_sub_of_le _ _ ge
  unfold releaseWrites
  dsimp only
  rw [if_pos ge]
  by_cases zero : m.u32 .hdrArenaUsed - skip = 0
  · rw [if_pos zero]
    refine ⟨?_, .inr ⟨by simp, by simp [zero]⟩, fun _ => by simp, ?_, rfl, rfl⟩
    · simpa using sub
    · intro l wpos used
      simp [wpos, used]
  · rw [if_neg zero]
    refine ⟨?_, .inl (by simp), fun none => absurd (UInt32.toNat_inj.mp ?_) zero, ?_, rfl, rfl⟩
    · simpa using sub
    · simpa using none
    · intro l _ used
      simp [used]

/-- Taking the oldest request out of the ring. -/
private theorem Ring.pop {b : Block} (ring : Ring s m ((r, b) :: live)) {m' : Mem}
    (effect : ReleaseEffect m m' b.skip) :
    Ring s (m'.write (.w64 .hdrReqHead (m.u64 .hdrReqHead + 1))) live where
  valid := by
    have released := ring.valid.release
    simp only [Mem.write_w64, Mem.set64_u32]
    rw [← effect.used] at released
    rcases effect.wpos with same | ⟨zero, none⟩
    · rw [same]
      exact released
    · rw [none] at released ⊢
      rw [zero]
      exact released.reset (by decide)
  tail_eq := by
    have := ring.tail_eq
    simp only [List.length_cons] at this
    simp only [Mem.write_w64, Mem.set64_u64, if_true, reduceCtorEq, if_false, effect.counters,
      this, UInt64.ofNat_add, UInt64.add_assoc, UInt64.add_comm]
    rfl
  bounded := Nat.le_of_succ_le ring.bounded
  len_eq := fun rb member => ring.len_eq rb (List.mem_cons_of_mem _ member)
  holds := by
    intro k bound
    have index : queueIndex s (m'.write (.w64 .hdrReqHead (m.u64 .hdrReqHead + 1))) k =
        queueIndex s m (k + 1) := by
      have shift : m.u64 .hdrReqHead + 1 + UInt64.ofNat k =
          m.u64 .hdrReqHead + UInt64.ofNat (k + 1) := by
        rw [UInt64.ofNat_add, UInt64.add_assoc, UInt64.add_comm 1]
        rfl
      simp [queueIndex, shift]
    rw [index]
    have held := ring.holds (k + 1) (Nat.succ_lt_succ bound)
    rw [List.getElem_cons_succ] at held
    refine held.congr ?_ ?_
    · intro l field
      refine effect.words l ?_ ?_ <;>
        · rintro rfl
          exact field
    · intro j _
      simp [effect.bytes]

/-- Every memory a death inside `recvLocked` of a nonempty queue leaves behind. -/
theorem recv_along {q : List Request} (queue : Represents s m (r :: q)) :
    Along (fun m' rest => SafeRecvCut rest → RecvLeaves s m (r :: q) m') m (recvWrites s m) := by
  obtain ⟨live, ring, same⟩ := queue
  cases live with
  | nil => cases same
  | cons rb live =>
    obtain ⟨r', b⟩ := rb
    obtain ⟨here, rfl⟩ := List.cons.inj same
    dsimp only at here
    subst here
    have held := ring.holds 0 (by simp)
    rw [List.getElem_cons_zero] at held
    have first : queueIndex s m 0 = ringIndex s (m.u64 .hdrReqHead) := by
      simp [queueIndex]
    rw [first] at held
    have charged : (m.u32 (.reqSlotArenaSkip (ringIndex s (m.u64 .hdrReqHead)))).toNat ≤
        (m.u32 .hdrArenaUsed).toNat := by
      rw [held.arenaSkip]
      exact ring.valid.skip_le_used
    have effect := release_effect charged
    rw [held.arenaSkip] at effect
    have popped := ring.pop effect
    have before : RecvLeaves s m (r' :: live.map Prod.fst) m := by
      rw [RecvLeaves, if_pos rfl]
      exact ⟨_, ring, rfl⟩
    have after : RecvLeaves s m (r' :: live.map Prod.fst)
        ((m.writeAll (releaseWrites m (m.u32 (.reqSlotArenaSkip
          (ringIndex s (m.u64 .hdrReqHead)))))).write
          (.w64 .hdrReqHead (m.u64 .hdrReqHead + 1))) := by
      rw [RecvLeaves, if_neg (by simp)]
      exact ⟨live, popped, rfl⟩
    revert after
    unfold recvWrites releaseWrites
    dsimp only
    generalize (if m.u32 .hdrArenaUsed ≥ _ then _ else _ : UInt32) = used
    split
    · intro after
      exact ⟨fun _ => before, fun safe => safe.elim, fun safe => safe.elim, fun _ => after⟩
    · intro after
      exact ⟨fun _ => before, fun safe => safe.elim, fun _ => after⟩

end ReqRep
