import ReqRep.Machine.Frame
import ReqRep.Machine.Start

/-!
# The goroutine of one request

`Serve` hands each request to a goroutine that calls the handler and then
`writeResponse`, or `cancelRequest` after an error or a panic. It drops the error
of `writeResponse`. What it leaves of the slot, while nobody else steps on it.
-/

namespace ReqRep

variable {n : Nat}

/-- The words and the data of a response slot are the same. -/
structure Cfg.SameSlot (S : Setup n) (c c' : Cfg n) (i : UInt32) : Prop where
  state : c'.state i = c.state i
  gen : c'.gen i = c.gen i
  len : c'.mem.u32 (.respSlotLen i) = c.mem.u32 (.respSlotLen i)
  data : ∀ k < S.shm.respDataMax.toNat,
    c'.mem.u8 (.respSlotData i k) = c.mem.u8 (.respSlotData i k)

instance (S : Setup n) (c c' : Cfg n) (i : UInt32) : Decidable (c.SameSlot S c' i) :=
  decidable_of_iff (c'.state i = c.state i ∧ c'.gen i = c.gen i ∧
      c'.mem.u32 (.respSlotLen i) = c.mem.u32 (.respSlotLen i) ∧
      ∀ k < S.shm.respDataMax.toNat,
        c'.mem.u8 (.respSlotData i k) = c.mem.u8 (.respSlotData i k))
    ⟨fun h => ⟨h.1, h.2.1, h.2.2.1, h.2.2.2⟩, fun h => ⟨h.1, h.2, h.3, h.4⟩⟩

/-- Goroutine `t` acts before its end, or another step leaves slot `i` alone. -/
def Alone (S : Setup n) (t : Fin n) (i : UInt32) (c : Cfg n) (act : Act n) : Prop :=
  if act.thread = some t then (c.thr t).pc ≠ .idle
  else match c.step S act with
    | some c' => c.SameSlot S c' i
    | none => True

instance (S : Setup n) (t : Fin n) (i : UInt32) (c : Cfg n) (act : Act n) :
    Decidable (Alone S t i c act) := by
  unfold Alone
  split
  · infer_instance
  · split <;> infer_instance

/-- The slot is READY under the id and holds the response. -/
structure Cfg.Holds (c : Cfg n) (id : UInt64) (response : List UInt8) : Prop where
  state : c.state (idSlot id) = layoutRespReady
  gen : c.gen (idSlot id) = idGen id
  len : c.mem.u32 (.respSlotLen (idSlot id)) = UInt32.ofNat response.length
  data : ∀ k (h : k < response.length), c.mem.u8 (.respSlotData (idSlot id) k) = response[k]

/-- The request is cancelled and the generation has moved on. -/
def Cfg.Void (c : Cfg n) (id : UInt64) : Prop :=
  c.state (idSlot id) = layoutRespFree ∧ c.gen (idSlot id) ≠ idGen id

/-- The handler's response is in the slot, or the request is cancelled. -/
def Cfg.Settled (c : Cfg n) (id : UInt64) (reply : Option (List UInt8)) : Prop :=
  (∃ response, reply = some response ∧ c.Holds id response) ∨ c.Void id

/-- The slot is taken under the id. -/
def Cfg.Open (c : Cfg n) (id : UInt64) : Prop :=
  c.state (idSlot id) = layoutRespAcquired ∧ c.gen (idSlot id) = idGen id

/-- The slot is freed but has its generation still. -/
def Cfg.Freed (c : Cfg n) (id : UInt64) : Prop :=
  c.state (idSlot id) = layoutRespFree ∧ c.gen (idSlot id) = idGen id

/-- The slot is taken and its first `k` bytes are those of the response. -/
def Cfg.Filled (c : Cfg n) (id : UInt64) (response : List UInt8) (k : Nat) : Prop :=
  c.Open id ∧ ∀ j (h : j < response.length), j < k →
    c.mem.u8 (.respSlotData (idSlot id) j) = response[j]

/-- `writeResponse` has the handler's response, and it fits the slot. -/
def Writes (S : Setup n) (reply : Option (List UInt8)) (response : List UInt8) : Prop :=
  reply = some response ∧ response.length ≤ S.shm.respDataMax.toNat

/-- What holds at each counter of the goroutine. -/
def Cfg.Serving (S : Setup n) (c : Cfg n) (id : UInt64) (reply : Option (List UInt8)) :
    Pc → Prop
  | .cancelGen id' .idle | .cancelCas id' .idle => id' = id ∧ reply = none ∧ c.Open id
  | .cancelOwner id' .idle | .cancelBump id' .idle => id' = id ∧ reply = none ∧ c.Freed id
  | .cancelLoad id' .idle | .cancelWake id' .idle => id' = id ∧ reply = none ∧ c.Void id
  | .wakeBump .slot .idle | .wakeLoad .slot .idle | .wakeCall .slot .idle =>
    reply = none ∧ c.Void id
  | .writeState id' response | .writeGen id' response =>
    id' = id ∧ Writes S reply response ∧ c.Open id
  | .writeCopy id' response k =>
    id' = id ∧ Writes S reply response ∧ k < response.length ∧ c.Filled id response k
  | .writeLen id' response =>
    id' = id ∧ Writes S reply response ∧ c.Filled id response response.length
  | .writeFlags id' response | .writeCas id' response =>
    id' = id ∧ Writes S reply response ∧ c.Filled id response response.length ∧
      c.mem.u32 (.respSlotLen (idSlot id)) = UInt32.ofNat response.length
  | .writeLoad id' | .writeWake id' =>
    id' = id ∧ ∃ response, Writes S reply response ∧ c.Holds id response
  | .writeStat => ∃ response, Writes S reply response ∧ c.Holds id response
  | .idle =>
    (∃ response, reply = some response ∧ S.shm.respDataMax.toNat < response.length ∧ c.Open id) ∨
    (∃ response, Writes S reply response ∧ c.Holds id response) ∨ reply = none ∧ c.Void id
  | _ => False

variable {S : Setup n} {c c' : Cfg n} {t : Fin n} {id : UInt64} {reply : Option (List UInt8)}

/-! ## Steps of the others -/

namespace Cfg.SameSlot

theorem opens (same : c.SameSlot S c' (idSlot id)) (before : c.Open id) : c'.Open id := by
  unfold Cfg.Open
  rwa [same.state, same.gen]

theorem freed (same : c.SameSlot S c' (idSlot id)) (before : c.Freed id) : c'.Freed id := by
  unfold Cfg.Freed
  rwa [same.state, same.gen]

theorem void (same : c.SameSlot S c' (idSlot id)) (before : c.Void id) : c'.Void id := by
  unfold Cfg.Void
  rwa [same.state, same.gen]

theorem filled {response : List UInt8} {k : Nat} (same : c.SameSlot S c' (idSlot id))
    (writes : Writes S reply response) (before : c.Filled id response k) :
    c'.Filled id response k := by
  refine ⟨same.opens before.1, fun j bound filled => ?_⟩
  rw [same.data j (Nat.lt_of_lt_of_le bound writes.2)]
  exact before.2 j bound filled

theorem holds {response : List UInt8} (same : c.SameSlot S c' (idSlot id))
    (writes : Writes S reply response) (before : c.Holds id response) : c'.Holds id response where
  state := by rw [same.state, before.state]
  gen := by rw [same.gen, before.gen]
  len := by rw [same.len, before.len]
  data := fun k bound => by
    rw [same.data k (Nat.lt_of_lt_of_le bound writes.2), before.data k bound]

/-- What holds at a counter is about the slot alone. -/
theorem serving {pc : Pc} (same : c.SameSlot S c' (idSlot id))
    (before : c.Serving S id reply pc) : c'.Serving S id reply pc := by
  cases pc with
  | cancelGen id' next | cancelCas id' next =>
    cases next with
    | idle => exact ⟨before.1, before.2.1, same.opens before.2.2⟩
    | _ => exact before.elim
  | cancelOwner id' next | cancelBump id' next =>
    cases next with
    | idle => exact ⟨before.1, before.2.1, same.freed before.2.2⟩
    | _ => exact before.elim
  | cancelLoad id' next | cancelWake id' next =>
    cases next with
    | idle => exact ⟨before.1, before.2.1, same.void before.2.2⟩
    | _ => exact before.elim
  | wakeBump w next | wakeLoad w next | wakeCall w next =>
    cases w with
    | slot =>
      cases next with
      | idle => exact ⟨before.1, same.void before.2⟩
      | _ => exact before.elim
    | _ => exact before.elim
  | writeState id' response | writeGen id' response =>
    exact ⟨before.1, before.2.1, same.opens before.2.2⟩
  | writeCopy id' response k =>
    exact ⟨before.1, before.2.1, before.2.2.1, same.filled before.2.1 before.2.2.2⟩
  | writeLen id' response => exact ⟨before.1, before.2.1, same.filled before.2.1 before.2.2⟩
  | writeFlags id' response | writeCas id' response =>
    refine ⟨before.1, before.2.1, same.filled before.2.1 before.2.2.1, ?_⟩
    rw [same.len, before.2.2.2]
  | writeLoad id' | writeWake id' =>
    obtain ⟨own, response, writes, holds⟩ := before
    exact ⟨own, response, writes, same.holds writes holds⟩
  | writeStat =>
    obtain ⟨response, writes, holds⟩ := before
    exact ⟨response, writes, same.holds writes holds⟩
  | idle =>
    rcases before with ⟨response, replied, long, opened⟩ | ⟨response, writes, holds⟩ |
      ⟨failed, void⟩
    · exact .inl ⟨response, replied, long, same.opens opened⟩
    · exact .inr (.inl ⟨response, writes, same.holds writes holds⟩)
    · exact .inr (.inr ⟨failed, same.void void⟩)
  | _ => exact before.elim

end Cfg.SameSlot

/-! ## Steps of its own -/

/-- Waking goroutines leaves the slot alone. -/
theorem sameSlot_wake {l : Loc32} {k : Nat} {woken : List (Fin n)}
    (woke : c.futexWake S l k woken = some c') (i : UInt32) (pc : Pc) :
    c.SameSlot S (c'.goto t pc) i := by
  have moved := mem_futexWake woke
  have same : (c'.goto t pc).mem = c.mem := moved
  constructor
  all_goals simp [Cfg.state, Cfg.gen, same]

/-- The last byte is copied, or one more is. -/
theorem Cfg.Filled.writeNext {response : List UInt8} {k : Nat} (writes : Writes S reply response)
    (le : k ≤ response.length) (filled : c.Filled id response k) :
    c.Serving S id reply (.writeNext id response k) := by
  unfold Pc.writeNext
  split
  · next more => exact ⟨rfl, writes, more, filled⟩
  · next all =>
    obtain rfl : k = response.length := by omega
    exact ⟨rfl, writes, filled⟩

/-- A step of the handler's goroutine, while nobody else touches the slot. -/
theorem Cfg.Serving.step {ans : Answer n} (slot : idSlot id < S.shm.respSlots)
    (serving : c.Serving S id reply (c.thr t).pc) (ran : c.run S t ans = some c') :
    c'.Serving S id reply (c'.thr t).pc := by
  cases here : (c.thr t).pc with
  | cancelGen id' next =>
    rw [here] at serving
    obtain rfl : _ = c' := by simpa only [Cfg.run, here, Option.some.injEq] using ran
    cases next <;> try exact serving.elim
    obtain ⟨rfl, failed, opened⟩ := serving
    rw [goto_pc, if_neg (not_or.mpr ⟨UInt32.not_le.mpr slot, not_not.mpr opened.2⟩)]
    exact ⟨rfl, failed, opened⟩
  | cancelCas id' next =>
    rw [here] at serving
    cases next <;> try exact serving.elim
    obtain ⟨rfl, failed, opened⟩ := serving
    obtain ⟨acquired, gen⟩ := opened
    simp only [Cfg.run, here, if_pos acquired, Option.some.injEq] at ran
    subst ran
    rw [goto_pc]
    exact ⟨rfl, failed, if_pos rfl, gen⟩
  | cancelOwner id' next =>
    rw [here] at serving
    obtain rfl : _ = c' := by simpa only [Cfg.run, here, Option.some.injEq] using ran
    cases next <;> try exact serving.elim
    obtain ⟨rfl, failed, freed⟩ := serving
    rw [goto_pc]
    exact ⟨rfl, failed, freed⟩
  | cancelBump id' next =>
    rw [here] at serving
    obtain rfl : _ = c' := by simpa only [Cfg.run, here, Option.some.injEq] using ran
    cases next <;> try exact serving.elim
    obtain ⟨rfl, failed, free, gen⟩ := serving
    rw [goto_pc]
    refine ⟨rfl, failed, free, ?_⟩
    have bumped : ((c.bump (idSlot id')).goto t (.cancelLoad id' .idle)).gen (idSlot id') =
        c.gen (idSlot id') + 1 := if_pos rfl
    rw [bumped, gen]
    simp
  | cancelLoad id' next =>
    rw [here] at serving
    obtain rfl : _ = c' := by simpa only [Cfg.run, here, Option.some.injEq] using ran
    cases next <;> try exact serving.elim
    obtain ⟨rfl, failed, void⟩ := serving
    rw [goto_pc]
    split
    · exact ⟨rfl, failed, void⟩
    · exact ⟨failed, void⟩
  | cancelWake id' next =>
    rw [here] at serving
    simp only [Cfg.run, here] at ran
    obtain ⟨c₀, woke, rfl⟩ := Option.map_eq_some_iff.mp ran
    cases next <;> try exact serving.elim
    obtain ⟨rfl, failed, void⟩ := serving
    rw [goto_pc]
    exact ⟨failed, (sameSlot_wake woke _ _).void void⟩
  | wakeBump w next =>
    rw [here] at serving
    obtain rfl : _ = c' := by simpa only [Cfg.run, here, Option.some.injEq] using ran
    cases w <;> cases next <;> try exact serving.elim
    rw [goto_pc]
    exact serving
  | wakeLoad w next =>
    rw [here] at serving
    obtain rfl : _ = c' := by simpa only [Cfg.run, here, Option.some.injEq] using ran
    cases w <;> cases next <;> try exact serving.elim
    rw [goto_pc]
    split
    · exact serving
    · exact .inr (.inr serving)
  | wakeCall w next =>
    rw [here] at serving
    simp only [Cfg.run, here] at ran
    obtain ⟨c₀, woke, rfl⟩ := Option.map_eq_some_iff.mp ran
    cases w <;> cases next <;> try exact serving.elim
    obtain ⟨failed, void⟩ := serving
    rw [goto_pc]
    exact .inr (.inr ⟨failed, (sameSlot_wake woke _ _).void void⟩)
  | writeState id' response =>
    rw [here] at serving
    obtain rfl : _ = c' := by simpa only [Cfg.run, here, Option.some.injEq] using ran
    obtain ⟨rfl, writes, opened⟩ := serving
    rw [goto_pc, if_neg (not_not.mpr opened.1)]
    exact ⟨rfl, writes, opened⟩
  | writeGen id' response =>
    rw [here] at serving
    obtain rfl : _ = c' := by simpa only [Cfg.run, here, Option.some.injEq] using ran
    obtain ⟨rfl, writes, opened⟩ := serving
    rw [goto_pc, if_neg (not_not.mpr opened.2)]
    exact Cfg.Filled.writeNext writes (Nat.zero_le _)
      ⟨opened, fun j _ before => absurd before (Nat.not_lt_zero j)⟩
  | writeCopy id' response k =>
    rw [here] at serving
    obtain rfl : _ = c' := by simpa only [Cfg.run, here, Option.some.injEq] using ran
    obtain ⟨rfl, writes, more, opened, bytes⟩ := serving
    rw [goto_pc]
    refine Cfg.Filled.writeNext writes more ⟨opened, fun j bound before => ?_⟩
    change (c.mem.set8 (.respSlotData (idSlot id') k) (response.getD k 0)).u8
      (.respSlotData (idSlot id') j) = response[j]
    rw [Mem.set8_u8]
    split
    · next same =>
      injection same with _ same
      subst same
      simp [bound]
    · next other =>
      refine bytes j bound ((Nat.lt_succ_iff_lt_or_eq.mp before).resolve_right ?_)
      rintro rfl
      exact other rfl
  | writeLen id' response =>
    rw [here] at serving
    obtain rfl : _ = c' := by simpa only [Cfg.run, here, Option.some.injEq] using ran
    obtain ⟨rfl, writes, filled⟩ := serving
    rw [goto_pc]
    exact ⟨rfl, writes, filled, if_pos rfl⟩
  | writeFlags id' response =>
    rw [here] at serving
    obtain rfl : _ = c' := by simpa only [Cfg.run, here, Option.some.injEq] using ran
    obtain ⟨rfl, writes, filled, len⟩ := serving
    rw [goto_pc]
    exact ⟨rfl, writes, filled, len⟩
  | writeCas id' response =>
    rw [here] at serving
    obtain ⟨rfl, writes, ⟨opened, bytes⟩, len⟩ := serving
    obtain ⟨acquired, gen⟩ := opened
    simp only [Cfg.run, here, if_pos acquired, Option.some.injEq] at ran
    subst ran
    rw [goto_pc]
    exact ⟨rfl, response, writes, if_pos rfl, gen, len, fun k bound => bytes k bound bound⟩
  | writeLoad id' =>
    rw [here] at serving
    obtain rfl : _ = c' := by simpa only [Cfg.run, here, Option.some.injEq] using ran
    obtain ⟨rfl, response, writes, holds⟩ := serving
    rw [goto_pc]
    split
    · exact ⟨rfl, response, writes, ⟨holds.1, holds.2, holds.3, holds.4⟩⟩
    · exact ⟨response, writes, ⟨holds.1, holds.2, holds.3, holds.4⟩⟩
  | writeWake id' =>
    rw [here] at serving
    simp only [Cfg.run, here] at ran
    obtain ⟨c₀, woke, rfl⟩ := Option.map_eq_some_iff.mp ran
    obtain ⟨rfl, response, writes, holds⟩ := serving
    rw [goto_pc]
    exact ⟨response, writes, (sameSlot_wake woke _ _).holds writes holds⟩
  | writeStat =>
    rw [here] at serving
    obtain rfl : _ = c' := by simpa only [Cfg.run, here, Option.some.injEq] using ran
    obtain ⟨response, writes, holds⟩ := serving
    rw [goto_pc]
    exact .inr (.inl ⟨response, writes, ⟨holds.1, holds.2, holds.3, holds.4⟩⟩)
  | idle => simp [Cfg.run, here] at ran
  | _ =>
    rw [here] at serving
    exact serving.elim

/-! ## The whole goroutine -/

/-- What holds at the counter of the goroutine is kept by its own steps, and by
those of others that leave the slot alone. -/
theorem serving_step (slot : idSlot id < S.shm.respSlots) {act : Act n}
    (serving : c.Serving S id reply (c.thr t).pc) (alone : Alone S t (idSlot id) c act)
    (stepped : c.step S act = some c') : c'.Serving S id reply (c'.thr t).pc := by
  have awake : (c.thr t).pc.asleepOn = none := by
    generalize (c.thr t).pc = pc at serving
    cases pc <;> first | rfl | exact serving.elim
  unfold Alone at alone
  split at alone
  · next own =>
    unfold Cfg.step at stepped
    split at stepped
    · cases stepped
    cases act with
    | run t' ans =>
      obtain rfl : t' = t := Option.some.inj own
      exact serving.step slot stepped
    | query t' req | serve t' =>
      obtain rfl : t' = t := Option.some.inj own
      simp [alone] at stepped
    | cancelCtx t' | deadline t' =>
      obtain rfl : t' = t := Option.some.inj own
      cases stepped
      have same : ∀ th, c.SameSlot S { c with thr := Function.update c.thr t' th } (idSlot id) :=
        fun _ => ⟨rfl, rfl, rfl, fun _ _ => rfl⟩
      refine (same _).serving ?_
      simpa using serving
    | wakeup t' =>
      obtain rfl : t' = t := Option.some.inj own
      simp [awake] at stepped
    | die pid => cases own
  · next other =>
    rw [stepped] at alone
    rcases step_thr_of_ne stepped other with same | ⟨⟨l, asleep⟩, -⟩
    · rw [same]
      exact alone.serving serving
    · rw [awake] at asleep
      cases asleep

/-- The handler has answered, or failed. -/
theorem serving_first {ans : Answer n} (slot : idSlot id < S.shm.respSlots)
    (handles : (c.thr t).pc = .handle id) (opened : c.Open id)
    (ran : c.run S t ans = some c') : c'.Serving S id ans.reply (c'.thr t).pc := by
  simp only [Cfg.run, handles] at ran
  split at ran
  · next failed =>
    obtain rfl := Option.some.inj ran
    rw [goto_pc, failed]
    exact ⟨rfl, rfl, opened⟩
  · next response replied =>
    obtain rfl := Option.some.inj ran
    rw [goto_pc, replied]
    split
    · next refused =>
      have long := refused.resolve_left (UInt32.not_le.mpr slot)
      exact .inl ⟨response, rfl, long, opened⟩
    · next accepted =>
      exact ⟨rfl, ⟨rfl, Nat.le_of_not_lt (not_or.mp accepted).2⟩, opened⟩

/-- The goroutine of a request settles it exactly where the handler fails or its
response fits the slot. -/
theorem serve_settles {ans : Answer n} {acts : List (Act n)} (slot : idSlot id < S.shm.respSlots)
    (handles : (c.thr t).pc = .handle id) (opened : c.Open id)
    (ran : c.steps S (.run t ans :: acts) = some c')
    (alone : Runs.Always (Cfg.step S) (Alone S t (idSlot id)) c (.run t ans :: acts))
    (ended : (c'.thr t).pc = .idle) :
    c'.Settled id ans.reply ↔
      ∀ response, ans.reply = some response → response.length ≤ S.shm.respDataMax.toNat := by
  obtain ⟨c₁, first, rest⟩ := Option.bind_eq_some_iff.mp ran
  have later := alone.2
  rw [first] at later
  have live := first
  unfold Cfg.step at live
  split at live
  · cases live
  have serving : c'.Serving S id ans.reply (c'.thr t).pc :=
    Runs.invariant (fun c => c.Serving S id ans.reply (c.thr t).pc)
      (fun _ _ _ serving alone stepped => serving_step slot serving alone stepped) rest later
      (serving_first slot handles opened live)
  rw [ended] at serving
  rcases serving with ⟨response, replied, long, acquired, gen⟩ |
    ⟨response, ⟨replied, fits⟩, holds⟩ | ⟨failed, void⟩
  · constructor
    · rintro (⟨response', -, holds⟩ | ⟨free, -⟩)
      · rw [holds.state] at acquired
        cases acquired
      · rw [free] at acquired
        cases acquired
    · intro fits
      exact absurd (fits response replied) (Nat.not_le.mpr long)
  · refine iff_of_true (.inl ⟨response, replied, holds⟩) ?_
    intro response' replied'
    rw [replied] at replied'
    obtain rfl := Option.some.inj replied'
    exact fits
  · refine iff_of_true (.inr void) ?_
    intro response replied
    rw [failed] at replied
    cases replied

/-- One goroutine, about to call the handler of a request. -/
def handling : Cfg 1 := {
  freshCfg 1 with
  mem := ((freshMem 0).set32 (.respSlotState 0) layoutRespAcquired).set32 (.respSlotGeneration 0) 1
  thr := fun _ => {
    pc := .handle (packId 1 0)
    req := []
    ctxErr := false
    pastDeadline := false } }

theorem serve_settles_reply : ∃ c',
    handling.steps (tinySetup 1) (.run 0 { reply := some [7] } :: go 0 8) = some c' ∧
    (c'.Settled (packId 1 0) (some [7]) ↔
      ∀ response : List UInt8, some [7] = some response →
        response.length ≤ (tinySetup 1).shm.respDataMax.toNat) := by
  have alone : Runs.Always (Cfg.step (tinySetup 1)) (Alone (tinySetup 1) 0 (idSlot (packId 1 0)))
      handling (.run 0 { reply := some [7] } :: go 0 8) := by decide +kernel
  have ended : ((handling.steps (tinySetup 1)
      (.run 0 { reply := some [7] } :: go 0 8)).map fun c' => (c'.thr 0).pc) = some .idle := by
    decide +kernel
  obtain ⟨c', ran, idle⟩ := Option.map_eq_some_iff.mp ended
  exact ⟨c', ran, serve_settles (by decide) rfl ⟨rfl, rfl⟩ ran alone idle⟩

/-- A response of nine bytes for a slot of eight: `writeResponse` returns
`ErrRespTooLong`, and nobody looks at it. -/
theorem longResponse_unsettled : ∃ c',
    handling.steps (tinySetup 1) [.run 0 { reply := some (List.replicate 9 7) }] = some c' ∧
    Runs.Always (Cfg.step (tinySetup 1)) (Alone (tinySetup 1) 0 (idSlot (packId 1 0))) handling
      [.run 0 { reply := some (List.replicate 9 7) }] ∧
    (c'.thr 0).pc = .idle ∧ c'.Open (packId 1 0) ∧
    ¬ c'.Settled (packId 1 0) (some (List.replicate 9 7)) := by
  have alone : Runs.Always (Cfg.step (tinySetup 1)) (Alone (tinySetup 1) 0 (idSlot (packId 1 0)))
      handling [.run 0 { reply := some (List.replicate 9 7) }] := by decide +kernel
  refine ⟨_, rfl, alone, by decide +kernel, ⟨rfl, rfl⟩, ?_⟩
  rintro (⟨response, -, holds⟩ | ⟨free, -⟩)
  · cases holds.state
  · cases free

end ReqRep
