import ReqRep.Machine.Signals
import ReqRep.Misc.Count

/-!
# What was missed

For each wake word, how much there is of what its waiters wait for: queued requests,
room in the queue, FREE slots. A waiter that has looked for it in vain counts what
has come up since, in what it has looked at.
-/

namespace ReqRep

variable {n : Nat} {S : Setup n} {c c' c₀ : Cfg n} {w : WakeWord} {ck : Check}

/-- The slots that a check has looked at. -/
def Check.covers (s : Shm) : Check → UInt32 → Bool
  | .whole _, _ => true
  | .scanned hint i, k => decide (∃ j < i.toNat, (hint + UInt32.ofNat j) % s.respSlots = k)

/-- The FREE slots among the ones that a check has looked at. -/
def Cfg.freeSlots (S : Setup n) (c : Cfg n) (ck : Check) : Nat :=
  Count.count id fun k : Fin S.shm.respSlots.toNat =>
    c.free (UInt32.ofNat k) && ck.covers S.shm (UInt32.ofNat k)

/-- How much there is of what was looked for in vain. -/
def Cfg.missed (S : Setup n) (c : Cfg n) : Check → Nat
  | .whole .recv => c.pending.length
  | .whole .send => S.shm.reqCap.toNat - c.pending.length
  | ck => c.freeSlots S ck

theorem missed_congr (pending : c'.pending = c.pending) (free : c'.free = c.free) (ck : Check) :
    c'.missed S ck = c.missed S ck := by
  have slots : c'.freeSlots S ck = c.freeSlots S ck := by rw [Cfg.freeSlots, Cfg.freeSlots, free]
  rcases ck with ⟨_ | _ | _⟩ | ⟨hint, i⟩ <;> simp only [Cfg.missed, pending, slots]

theorem Cfg.Agrees.missed (agrees : c.Agrees c₀) (ck : Check) : c₀.missed S ck = c.missed S ck :=
  missed_congr agrees.pending agrees.free ck

theorem missed_slot (word : ck.word = .slot) : c.missed S ck = c.freeSlots S ck := by
  cases ck with
  | whole w =>
    obtain rfl : w = .slot := word
    rfl
  | scanned hint i => rfl

/-- What the words other than `slot_futex` tell of is in the queue. -/
theorem missed_queue (pending : c'.pending = c.pending) (word : ck.word ≠ .slot) :
    c'.missed S ck = c.missed S ck := by
  rcases ck with ⟨_ | _ | _⟩ | ⟨hint, i⟩ <;>
    first | exact absurd rfl word | simp only [Cfg.missed, pending]

/-- What `slot_futex` tells of is in the slots. -/
theorem missed_free (free : c'.free = c.free) (word : ck.word = .slot) :
    c'.missed S ck = c.missed S ck := by
  rw [missed_slot word, missed_slot word, Cfg.freeSlots, Cfg.freeSlots, free]

theorem whole_of_word (word : ck.word = w) (queue : w ≠ .slot) : ck = .whole w := by
  cases ck with
  | whole w' => exact congrArg Check.whole word
  | scanned hint i => exact absurd word.symm queue

theorem free_setState (c : Cfg n) (i state : UInt32) (h : Option (Fin n)) (k : UInt32) :
    (c.setState i state h).free k =
      if k = i then decide (state = layoutRespFree) else c.free k := by
  have states : (c.setState i state h).state k = if k = i then state else c.state k := by
    by_cases same : k = i
    · subst same
      rw [if_pos rfl]
      exact if_pos rfl
    · rw [if_neg same]
      exact if_neg fun eq => same (Loc32.respSlotState.inj eq)
  rw [Cfg.free, states]
  split <;> rfl

private theorem ofNat_inj {k k' : Fin S.shm.respSlots.toNat}
    (same : UInt32.ofNat k = UInt32.ofNat k') : k = k' := by
  have size := S.shm.respSlots.toNat_lt
  have nats := congrArg UInt32.toNat same
  rw [UInt32.toNat_ofNat', UInt32.toNat_ofNat', Nat.mod_eq_of_lt (by omega),
    Nat.mod_eq_of_lt (by omega)] at nats
  exact Fin.ext nats

/-- A store to a slot state frees one slot at most. -/
theorem freeSlots_setState (c : Cfg n) (i state : UInt32) (h : Option (Fin n)) (ck : Check) :
    (c.setState i state h).freeSlots S ck ≤ c.freeSlots S ck + 1 := by
  by_cases inside : ∃ k : Fin S.shm.respSlots.toNat, UInt32.ofNat k = i
  · obtain ⟨k, rfl⟩ := inside
    have counts := Count.count_of_ne (p := id) (t := k)
      (f := fun k : Fin S.shm.respSlots.toNat =>
        c.free (UInt32.ofNat k) && ck.covers S.shm (UInt32.ofNat k))
      (g := fun k' : Fin S.shm.respSlots.toNat =>
        (c.setState (UInt32.ofNat k) state h).free (UInt32.ofNat k') &&
          ck.covers S.shm (UInt32.ofNat k')) fun k' ne => by
        rw [free_setState, if_neg fun same => ne (ofNat_inj same)]
    have one := Bool.toNat_le (id (((c.setState (UInt32.ofNat k) state h).free (UInt32.ofNat k)) &&
      ck.covers S.shm (UInt32.ofNat k)))
    rw [Cfg.freeSlots, Cfg.freeSlots]
    omega
  · refine Nat.le_succ_of_le (Nat.le_of_eq (Count.count_congr fun k => ?_))
    rw [free_setState, if_neg fun same => inside ⟨k, same⟩]

/-- A slot that is taken is missed no more. -/
theorem freeSlots_take (c : Cfg n) {i : UInt32} (h : Option (Fin n)) (ck : Check) :
    (c.setState i layoutRespAcquired h).freeSlots S ck ≤ c.freeSlots S ck := by
  refine Count.count_mono fun k free => ?_
  rw [id, Bool.and_eq_true, free_setState] at free
  rw [id, Bool.and_eq_true]
  refine ⟨?_, free.2⟩
  have here := free.1
  split at here
  · exact absurd here (by decide)
  · exact here

/-- A slot that was FREE and is taken is one less to be missed. -/
theorem freeSlots_take_lt (c : Cfg n) {i : UInt32} (h : Option (Fin n))
    (inside : i < S.shm.respSlots)
    (was : c.free i = true) :
    (c.setState i layoutRespAcquired h).freeSlots S (.whole .slot) + 1 ≤
      c.freeSlots S (.whole .slot) := by
  obtain ⟨k, rfl⟩ : ∃ k : Fin S.shm.respSlots.toNat, UInt32.ofNat k = i :=
    ⟨⟨i.toNat, UInt32.lt_iff_toNat_lt.mp inside⟩, UInt32.ofNat_toNat⟩
  have counts := Count.count_of_ne (p := id) (t := k)
    (f := fun k : Fin S.shm.respSlots.toNat =>
      c.free (UInt32.ofNat k) && (Check.whole .slot).covers S.shm (UInt32.ofNat k))
    (g := fun k' : Fin S.shm.respSlots.toNat =>
      (c.setState (UInt32.ofNat k) layoutRespAcquired h).free (UInt32.ofNat k') &&
        (Check.whole .slot).covers S.shm (UInt32.ofNat k')) fun k' ne => by
      rw [free_setState, if_neg fun same => ne (ofNat_inj same)]
  have taken : (c.setState (UInt32.ofNat k) layoutRespAcquired h).free
      (UInt32.ofNat k) = false := by
    rw [free_setState, if_pos rfl]
    decide
  simp only [taken, was, Check.covers, Bool.and_true, id, Bool.toNat_true, Bool.toNat_false]
    at counts
  simp only [Cfg.freeSlots, Check.covers, Bool.and_true]
  exact Nat.le_of_eq counts

/-- A store to another word. -/
theorem missed_store {l : Loc32} (v : UInt32) (other : ∀ i, l ≠ .respSlotState i) (ck : Check) :
    (c.store l v).missed S ck = c.missed S ck := by
  refine missed_congr ?_ (funext fun i => ?_) ck
  · rfl
  have same : (c.store l v).state i = c.state i := if_neg fun eq => other i eq.symm
  rw [Cfg.free, Cfg.free, same]

theorem missed_futexWake {l : Loc32} {k : Nat} {woken : List (Fin n)}
    (woke : c.futexWake S l k woken = some c') (ck : Check) : c'.missed S ck = c.missed S ck := by
  unfold Cfg.futexWake at woke
  split at woke <;> cases woke
  exact missed_congr rfl rfl ck

/-- The first pass from `hint` looks at every slot. -/
def Shm.Reaches (s : Shm) (hint : UInt32) : Prop :=
  ∀ k < s.respSlots.toNat, ∃ j < s.respSlots.toNat,
    (hint + UInt32.ofNat j) % s.respSlots = UInt32.ofNat k

instance (s : Shm) (hint : UInt32) : Decidable (s.Reaches hint) :=
  inferInstanceAs (Decidable (∀ k < _, ∃ j < _, _))

theorem freeSlots_begin (c : Cfg n) (hint : UInt32) : c.freeSlots S (.scanned hint 0) = 0 := by
  refine Count.count_eq_zero.mpr fun k => ?_
  have none : (Check.scanned hint 0).covers S.shm (UInt32.ofNat k) = false :=
    by simp [Check.covers]
  rw [id, none, Bool.and_false]

/-- A slot that is not FREE is passed. -/
theorem freeSlots_pass {hint i : UInt32}
    (busy : c.free ((hint + i) % S.shm.respSlots) = false) :
    c.freeSlots S (.scanned hint (i + 1)) ≤ c.freeSlots S (.scanned hint i) := by
  refine Count.count_mono fun k free => ?_
  rw [id, Bool.and_eq_true] at free ⊢
  obtain ⟨free, covers⟩ := free
  obtain ⟨j, before, here⟩ := of_decide_eq_true covers
  refine ⟨free, decide_eq_true ⟨j, ?_, here⟩⟩
  have ne : j ≠ i.toNat := by
    rintro rfl
    rw [UInt32.ofNat_toNat] at here
    rw [← here, busy] at free
    cases free
  rw [UInt32.toNat_add, UInt32.toNat_one] at before
  have le := Nat.mod_le (i.toNat + 1) (2 ^ 32)
  omega

/-- A pass that has come to its end has looked at every slot. -/
theorem freeSlots_end {hint i : UInt32} (reaches : S.shm.Reaches hint)
    (ended : ¬ i < S.shm.respSlots) :
    c.freeSlots S (.whole .slot) ≤ c.freeSlots S (.scanned hint i) := by
  refine Count.count_mono fun k free => ?_
  rw [id, Bool.and_eq_true] at free ⊢
  refine ⟨free.1, decide_eq_true ?_⟩
  obtain ⟨j, bound, here⟩ := reaches k k.isLt
  rw [UInt32.lt_iff_toNat_lt] at ended
  exact ⟨j, by omega, here⟩

end ReqRep
