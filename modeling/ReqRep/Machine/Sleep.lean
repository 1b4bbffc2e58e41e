import ReqRep.Machine.Frame
import ReqRep.Machine.Holder
import ReqRep.Misc.Count

/-!
# No response wake-up is lost

A client sleeps on the state word of its slot. The word goes back to an earlier
value when the slot is cancelled, so what a sleeper relies on is its generation:
while it is current, the sleeper holds the slot or a canceller of the slot is not
done. The publisher of a response wakes only one sleeper, but of two sleepers on
one slot one has an old generation, and somebody else wakes that one.
-/

namespace ReqRep

variable {n : Nat} {S : Setup n} {g₀ : UInt32 → UInt32} {v v' : View n} {c c' : Cfg n}
  {t t' : Fin n} {label : Option Label}

/-! ## Who waits holds the slot -/

/-- Past the CAS of a cancellation of slot `i`, before its generation increment. -/
def Role.cancels (i : UInt32) : Role → Prop
  | .cancelling id .owner _ | .cancelling id .bump _ => idSlot id = i
  | _ => False

/-- A client that waits under the generation of its slot holds it, or it is being
cancelled. -/
def View.Waits (v : View n) : Prop := ∀ t id, v.role t = .waiting id →
  v.gen (idSlot id) = idGen id →
  v.holder (idSlot id) = some t ∨ ∃ t', (v.role t').cancels (idSlot id)

/-- A client starts to wait when it has sent its request. -/
theorem waiting_of_move (ids : Ids S g₀ v) (move : Move S v t label v') {id : UInt64}
    (waits : v'.role t = .waiting id) :
    (v.role t).holds = some id ∧ v'.holder = v.holder ∧ v'.gen = v.gen := by
  have roles := ids.roles t
  cases move with
  | send role =>
    rw [View.become_role] at waits
    split at waits
    · obtain rfl := Role.waiting.inj waits
      exact ⟨congrArg Role.holds role, rfl, rfl⟩
    · cases waits
  | releaseState role =>
    rw [role] at roles
    rw [View.become_role] at waits
    rcases roles.2 with rfl | ⟨bytes, rfl⟩ | rfl <;> cases waits
  | cancelMiss role | casMiss role | cancelBump role =>
    rw [role] at roles
    rw [View.become_role] at waits
    rcases roles.2 with rfl | ⟨rfl, -⟩ <;> cases waits
  | readLen role | readByte role =>
    rw [View.become_role, Role.readNext] at waits
    split at waits <;> cases waits
  | _ =>
    rw [View.become_role] at waits
    cases waits

/-- Who waits keeps its slot until a cancellation takes it. -/
theorem holder_of_move (ids : Ids S g₀ v) (healthy : v.Healthy) (holders : Holders g₀ v)
    (move : Move S v t label v') {i : UInt32} (other : t' ≠ t) (held : v.holder i = some t') :
    v'.holder i = some t' ∨ (v'.role t).cancels i := by
  cases move with
  | @take j role bound free =>
    have ne : i ≠ j := by
      rintro rfl
      rw [(holders.free _).mp free] at held
      cases held
    exact .inl (by simpa [View.become, View.setState, ne] using held)
  | free role => exact absurd role (ids.calm healthy.alive)
  | @releaseState id next role =>
    have ne : i ≠ idSlot id := by
      rintro rfl
      have mine := (holders.holds t id (congrArg Role.holds role)).1
      exact other (Option.some.inj (held.symm.trans mine))
    exact .inl (by simpa [View.become, View.setState, ne] using held)
  | @casHit id next role acquired =>
    by_cases same : i = idSlot id
    · exact .inr (by rw [View.become_role]; exact same.symm)
    · exact .inl (by simpa [View.become, View.note, View.setState, same] using held)
  | _ => exact .inl held

/-- A cancellation goes on until its increment. -/
theorem cancels_of_move (move : Move S v t label v') {i : UInt32} (cancels : (v.role t).cancels i) :
    (v'.role t).cancels i ∨ v'.gen i = v.gen i + 1 := by
  cases move with
  | cancelOwner role =>
    rw [role] at cancels
    exact .inl (by rw [View.become_role]; exact cancels)
  | cancelBump role =>
    rw [role] at cancels
    obtain rfl : _ = i := cancels
    exact .inr (by simp [View.become, View.bump])
  | take role | read role | giveUp role =>
    rcases role with role | role <;> simp [role, Role.cancels] at cancels
  | _ => simp_all [Role.cancels]

theorem View.Waits.step (waits : v.Waits) (ids : Ids S g₀ v) (healthy : v.Healthy)
    (holders : Holders g₀ v) (few : v'.Few) (move : Move S v t label v') : v'.Waits := by
  intro t₁ id role gen
  by_cases same : t₁ = t
  · subst same
    obtain ⟨holds, holder, -⟩ := waiting_of_move ids move role
    exact .inl (by rw [holder, (holders.holds t₁ id holds).1])
  · rw [move.role_of_ne same] at role
    have kept : v'.gen (idSlot id) = v.gen (idSlot id) := by
      refine (move.gen_cases _).resolve_right fun ⟨bumped, counted⟩ => ?_
      have few := few (idSlot id)
      rw [counted] at few
      exact ids.gen_succ_ne few (ids.issued_of_role (congrArg Role.id role)) (bumped ▸ gen)
    rcases waits t₁ id role (kept ▸ gen) with held | ⟨t₂, cancels⟩
    · exact (holder_of_move ids healthy holders move same held).imp_right fun cancels =>
        ⟨t, cancels⟩
    · refine .inr ⟨t₂, ?_⟩
      by_cases acts : t₂ = t
      · subst acts
        refine (cancels_of_move move cancels).resolve_right fun bumped => ?_
        rw [kept] at bumped
        simp at bumped
      · rwa [move.role_of_ne acts]

/-! ## Sleepers -/

theorem asleepOn_state {pc : Pc} {i : UInt32} (asleep : pc.asleepOn = some (.respSlotState i)) :
    ∃ id, pc = .waitAsleep id ∧ idSlot id = i := by
  cases pc with
  | waitAsleep id =>
    obtain rfl := Loc32.respSlotState.inj (Option.some.inj asleep)
    exact ⟨id, rfl, rfl⟩
  | sendAsleep noSlots => cases noSlots <;> cases asleep
  | _ => cases asleep

theorem watch_of_asleep {id : UInt64} (asleep : (c.thr t).pc = .waitAsleep id) :
    c.watch t = .asleep id := by
  rw [Cfg.watch, asleep]
  rfl

/-- Whom a `futexWake` that wakes everybody finds asleep, it wakes. -/
theorem all_woken {l : Loc32} {k : Nat} {woken : List (Fin n)}
    (woke : c.futexWake S l k woken = some c') (all : n ≤ k)
    (asleep : (c.thr t).pc.asleepOn = some l) (live : c.dead (S.pid t) = false) :
    (c'.thr t).pc = (c.thr t).pc.awake := by
  have member : t ∈ c.sleepers S l :=
    List.mem_filter.mpr ⟨List.mem_finRange t, decide_eq_true ⟨asleep, live⟩⟩
  have few : (c.sleepers S l).length ≤ n := by
    have le := List.length_filter_le (fun t =>
      decide ((c.thr t).pc.asleepOn = some l ∧ c.dead (S.pid t) = false)) (List.finRange n)
    rwa [List.length_finRange] at le
  unfold Cfg.futexWake at woke
  split at woke
  · next valid =>
    obtain ⟨nodup, subset, length⟩ := valid
    obtain rfl := Option.some.inj woke
    have perm : woken.Perm (c.sleepers S l) :=
      (List.subperm_of_subset nodup subset).perm_of_length_le (by omega)
    dsimp only
    rw [if_pos (perm.mem_iff.mpr member)]
  · cases woke

namespace Watches

/-- Others stay as they are, or are woken. -/
theorem of_ne (watches : Watches S c t c') (other : t' ≠ t) :
    c'.watch t' = c.watch t' ∨
      ∃ id, (c.thr t').pc = .waitAsleep id ∧ c'.watch t' = .registered (idSlot id) := by
  cases watches with
  | same watch => exact .inl (by rw [watch])
  | register i before watch | leave i before watch | wakeup id before watch
  | begin i w before begins watch => exact .inl (by rw [watch, Function.update_of_ne other])
  | sleep id here unready now =>
    subst now
    exact .inl (by rw [watch_goto, Function.update_of_ne other])
  | quit i before none pc off now =>
    subst now
    exact .inl (by rw [watch_goto, Function.update_of_ne other])
  | wake i k woken c₀ before woke pc off now =>
    subst now
    rw [watch_goto, Function.update_of_ne other]
    rcases thr_futexWake (t := t') woke with same | ⟨asleep, awake⟩
    · exact .inl (by rw [Cfg.watch, same, Cfg.watch])
    · obtain ⟨id, here, -⟩ := asleepOn_state asleep
      exact .inr ⟨id, here, by rw [Cfg.watch, awake, here]; rfl⟩

theorem counts_of_ne (watches : Watches S c t c') (i : UInt32) (other : t' ≠ t) :
    (c'.watch t').counts i = (c.watch t').counts i := by
  rcases watches.of_ne other with same | ⟨id, asleep, registered⟩
  · rw [same]
  · rw [registered, watch_of_asleep asleep]
    rfl

/-- `resp_waiters` counts a registration when it comes and when it goes. -/
theorem counts_cases (watches : Watches S c t c') (i : UInt32) :
    c'.waiters i = c.waiters i ∧ (c'.watch t).counts i = (c.watch t).counts i ∨
      c'.waiters i = c.waiters i + 1 ∧ (c.watch t).counts i = false ∧
        (c'.watch t).counts i = true ∨
      c'.waiters i = c.waiters i - 1 ∧ (c.watch t).counts i = true ∧
        (c'.watch t).counts i = false := by
  have uncounted : ∀ {w : Watch} {j}, w.wakes j = true → w.counts i = false := by
    intro w j wakes
    cases w <;> first | rfl | cases wakes
  cases watches with
  | same watch waiters => exact .inl ⟨by rw [waiters], by rw [watch]⟩
  | register j before watch waiters =>
    rw [waiters, watch, Function.update_self, before]
    by_cases same : j = i
    · subst same
      exact .inr (.inl ⟨Function.update_self .., rfl, decide_eq_true rfl⟩)
    · exact .inl ⟨Function.update_of_ne (Ne.symm same) .., decide_eq_false same⟩
  | leave j before watch waiters =>
    rw [waiters, watch, Function.update_self, before]
    by_cases same : j = i
    · subst same
      exact .inr (.inr ⟨Function.update_self .., decide_eq_true rfl, rfl⟩)
    · exact .inl ⟨Function.update_of_ne (Ne.symm same) .., (decide_eq_false same).symm⟩
  | sleep id here unready now =>
    subst now
    refine .inl ⟨rfl, ?_⟩
    rw [watch_goto, Function.update_self, show c.watch t = .registered (idSlot id) by
      rw [Cfg.watch, here]; rfl]
    rfl
  | wakeup id before watch waiters =>
    rw [waiters, watch, Function.update_self, before]
    exact .inl ⟨rfl, rfl⟩
  | begin j w before begins watch waiters =>
    rw [waiters, watch, Function.update_self, before]
    exact .inl ⟨rfl, uncounted begins⟩
  | quit j before none pc off now =>
    subst now
    refine .inl ⟨rfl, ?_⟩
    rw [watch_goto, Function.update_self, off, uncounted before]
    rfl
  | wake j k woken c₀ before woke pc off now =>
    subst now
    have wakes : (c.watch t).wakes j = true := by
      rcases before with ⟨before, -⟩ | ⟨before, -⟩ <;> rw [before] <;> exact decide_eq_true rfl
    refine .inl ⟨?_, ?_⟩
    · exact congrFun (watch_futexWake woke).1 i
    · rw [watch_goto, Function.update_self, off, uncounted wakes]
      rfl

/-- `resp_waiters` is the number of clients in the futex phase. -/
theorem waiters_step (watches : Watches S c t c')
    (before : ∀ i, c.waiters i = UInt32.ofNat (Count.count (Watch.counts i) c.watch))
    (i : UInt32) : c'.waiters i = UInt32.ofNat (Count.count (Watch.counts i) c'.watch) := by
  have same : ∀ t' ≠ t, (c'.watch t').counts i = (c.watch t').counts i :=
    fun _ other => watches.counts_of_ne i other
  have moved := Count.count_of_ne same
  rcases watches.counts_cases i with ⟨waiters, same⟩ | ⟨waiters, off, on⟩ | ⟨waiters, on, off⟩
  · rw [waiters, before i]
    congr 1
    rw [same] at moved
    omega
  · rw [off, on] at moved
    rw [waiters, before i, show Count.count (Watch.counts i) c'.watch =
      Count.count (Watch.counts i) c.watch + 1 from moved, UInt32.ofNat_add]
    rfl
  · rw [off, on] at moved
    rw [waiters, before i, show Count.count (Watch.counts i) c.watch =
      Count.count (Watch.counts i) c'.watch + 1 from moved.symm, UInt32.ofNat_add]
    simp

/-- A goroutine that is asleep was so before, or goes to sleep now. -/
theorem asleep_cases (watches : Watches S c t c') {id : UInt64}
    (asleep : c'.watch t' = .asleep id) :
    c.watch t' = .asleep id ∨
      t' = t ∧ (c.thr t).pc = .waitFutexWait id (c.state (idSlot id)) ∧
        c.state (idSlot id) ≠ layoutRespReady ∧ c' = c.goto t (.waitAsleep id) := by
  by_cases other : t' = t
  · subst other
    cases watches with
    | same watch => exact .inl (by rw [← asleep, watch])
    | sleep id' here unready now =>
      have same : c'.watch t' = .asleep id' := by
        rw [now, watch_goto, Function.update_self]
        rfl
      obtain rfl := Watch.asleep.inj (same.symm.trans asleep)
      exact .inr ⟨rfl, here, unready, now⟩
    | begin i w before begins watch =>
      rw [watch, Function.update_self] at asleep
      subst asleep
      cases begins
    | register i before watch | leave i before watch | wakeup id before watch =>
      rw [watch, Function.update_self] at asleep
      cases asleep
    | quit i before none pc off now =>
      rw [now, watch_goto, Function.update_self, off] at asleep
      cases asleep
    | wake i k woken c₀ before woke pc off now =>
      rw [now, watch_goto, Function.update_self, off] at asleep
      cases asleep
  · rcases watches.of_ne other with same | ⟨id', -, registered⟩
    · exact .inl (same ▸ asleep)
    · rw [registered] at asleep
      cases asleep

end Watches

/-- A goroutine that sleeps stays asleep or wakes up. -/
theorem step_asleep {act : Act n} (stepped : c.step S act = some c') {l : Loc32}
    (asleep : (c.thr t).pc.asleepOn = some l) :
    (c'.thr t).pc = (c.thr t).pc ∨ (c'.thr t).pc = (c.thr t).pc.awake := by
  by_cases own : act.thread = some t
  · unfold Cfg.step at stepped
    split at stepped
    · cases stepped
    cases act with
    | run t' ans =>
      obtain rfl : t' = t := Option.some.inj own
      cases here : (c.thr t').pc with
      | waitAsleep id | sendAsleep noSlots | recvAsleep => simp [Cfg.run, here] at stepped
      | _ =>
        rw [here] at asleep
        cases asleep
    | query t' req | serve t' =>
      obtain rfl : t' = t := Option.some.inj own
      dsimp only at stepped
      split at stepped
      · next idle =>
        rw [idle] at asleep
        cases asleep
      · cases stepped
    | cancelCtx t' | deadline t' =>
      obtain rfl : t' = t := Option.some.inj own
      cases stepped
      exact .inl (by simp)
    | wakeup t' =>
      obtain rfl : t' = t := Option.some.inj own
      dsimp only at stepped
      split at stepped <;> cases stepped
      exact .inr (goto_pc _ _ _)
    | die pid => cases own
  · rcases step_thr_of_ne stepped own with same | ⟨-, awake⟩
    · exact .inl (by rw [same])
    · exact .inr (by rw [awake])

/-! ## The invariant -/

/-- Who sleeps is counted; after its generation has moved on a canceller has yet to
wake it, and after the slot was published a canceller or a publisher. -/
structure Awaited (c : Cfg n) : Prop where
  asleep : ∀ t id, c.watch t = .asleep id → (c.thr t).pc = .waitAsleep id
  waiters : ∀ i, c.waiters i = UInt32.ofNat (Count.count (Watch.counts i) c.watch)
  moved : ∀ t id, c.watch t = .asleep id → c.gen (idSlot id) ≠ idGen id →
    ∃ t', c.watch t' = .cancels (idSlot id)
  ready : ∀ t id, c.watch t = .asleep id → c.state (idSlot id) = layoutRespReady →
    ∃ t', (c.watch t').wakes (idSlot id) = true

/-- A client goes to sleep only while the generation of its slot is that of its id,
or while a canceller of the slot has yet to wake the sleepers. -/
def SleepsCurrent (c : Cfg n) : Act n → Prop
  | .run t _ => match (c.thr t).pc with
    | .waitFutexWait id state => c.state (idSlot id) = state →
      c.gen (idSlot id) = idGen id ∨ ∃ t', c.watch t' = .cancels (idSlot id)
    | _ => True
  | _ => True

instance (c : Cfg n) (act : Act n) : Decidable (SleepsCurrent c act) := by
  unfold SleepsCurrent
  split
  · split <;> infer_instance
  · exact isTrue trivial

theorem cancels_watch {s : Shm} {pc : Pc} {i : UInt32} (bounded : pc.Bounded s)
    (cancels : pc.role.cancels i) : pc.watch = .cancels i := by
  induction pc with
  | wakeBump w next ih | wakeLoad w next ih | wakeCall w next ih => exact ih bounded cancels
  | cancelOwner id next ih | cancelBump id next ih => exact congrArg Watch.cancels cancels
  | cancelLoad id next ih | cancelWake id next ih =>
    have off := ih bounded.1 cancels
    rw [bounded.2] at off
    cases off
  | waitGen id state =>
    simp only [Pc.role] at cancels
    split at cancels <;> exact cancels.elim
  | waitLeave id result => cases result <;> exact cancels.elim
  | _ => exact cancels.elim

/-- A generation is incremented by an acquirer or by a canceller. -/
theorem View.Step.bumper (step : v.Step S label v') {i : UInt32} (changed : v'.gen i ≠ v.gen i) :
    (∃ t, (v.role t).takes = some i) ∨ ∃ id, label = some (.bump id) ∧ idSlot id = i := by
  cases step with
  | @move t _ _ live move =>
    cases move with
    | @incZero j role zero =>
      by_cases same : i = j
      · exact .inl ⟨t, by rw [role, same]; rfl⟩
      · exact absurd (by simp [View.become, View.bump, same]) changed
    | @inc j p role last =>
      by_cases same : i = j
      · exact .inl ⟨t, by rw [role, same]; rfl⟩
      · exact absurd (by simp [View.become, View.note, View.bump, same]) changed
    | @cancelBump id next role =>
      by_cases same : i = idSlot id
      · exact .inr ⟨id, rfl, same.symm⟩
      · exact absurd (by simp [View.become, View.bump, same]) changed
    | _ => exact absurd rfl changed
  | _ => exact absurd rfl changed

/-- A slot becomes READY when a response is published. -/
theorem View.Step.publisher (step : v.Step S label v') {i : UInt32}
    (before : v.state i ≠ layoutRespReady) (ready : v'.state i = layoutRespReady) :
    ∃ id, label = some (.publish id) ∧ idSlot id = i := by
  cases step with
  | stutter | die pid => exact absurd ready before
  | move live move =>
    rcases move.state_cases i with same | free | ⟨-, acquired, -⟩ | ⟨-, -, id, -, label, slot, -⟩
    · exact absurd (same.symm.trans ready) before
    · rw [free] at ready
      cases ready
    · rw [acquired] at ready
      cases ready
    · exact ⟨id, label, slot⟩

theorem watch_cancelBump {act : Act n} {id : UInt64} (bumps : c.label S act = some (.bump id))
    (stepped : c.step S act = some c') : ∃ t, c'.watch t = .cancels (idSlot id) := by
  cases act with
  | run t ans =>
    obtain ⟨next, here⟩ := labelAt_bump bumps
    unfold Cfg.step at stepped
    split at stepped
    · cases stepped
    simp only [Cfg.run, here, Option.some.injEq] at stepped
    subst stepped
    exact ⟨t, by rw [watch_goto, Function.update_self]; rfl⟩
  | _ => cases bumps

theorem watch_publish {act : Act n} {id : UInt64} (publishes : c.label S act = some (.publish id))
    (stepped : c.step S act = some c') : ∃ t, c'.watch t = .publishes (idSlot id) := by
  cases act with
  | run t ans =>
    obtain ⟨response, here, acquired⟩ := labelAt_publish publishes
    unfold Cfg.step at stepped
    split at stepped
    · cases stepped
    simp only [Cfg.run, here, if_pos acquired, Option.some.injEq] at stepped
    subst stepped
    exact ⟨t, by rw [watch_goto, Function.update_self]; rfl⟩
  | _ => cases publishes

namespace Awaited

/-- While somebody sleeps, who is to wake it does not find the slot without waiters. -/
theorem waiters_ne_zero (inv : Awaited c) (threads : n ≤ 0x7FFFFFFF) {id : UInt64}
    (asleep : c.watch t = .asleep id) : c.waiters (idSlot id) ≠ 0 := by
  have pos : 0 < Count.count (Watch.counts (idSlot id)) c.watch :=
    Count.count_pos (t := t) (by rw [asleep]; exact decide_eq_true rfl)
  have few := Count.count_le_card (Watch.counts (idSlot id)) c.watch
  rw [Fintype.card_fin] at few
  rw [inv.waiters, Ne, ← UInt32.toNat_inj, UInt32.toNat_ofNat_of_lt' (by
    change _ < 2 ^ 32
    omega)]
  exact Nat.ne_of_gt pos

/-- Who is to wake a sleeper goes on, or wakes another one. -/
theorem waker_stays (inv : Awaited c) (alive : ∀ pid, c.dead pid = false)
    (threads : n ≤ 0x7FFFFFFF) (watches : Watches S c t c') {t₁ : Fin n} {id : UInt64}
    (asleep : c.watch t₁ = .asleep id) (still : c'.watch t₁ = .asleep id)
    (wakes : (c.watch t').wakes (idSlot id) = true) :
    c'.watch t' = c.watch t' ∨ c.watch t' = .publishes (idSlot id) ∧ t' = t ∧
      ∃ t₂ id₂, t₂ ≠ t₁ ∧ c.watch t₂ = .asleep id₂ ∧ idSlot id₂ = idSlot id := by
  by_cases acts : t' = t
  · subst acts
    have sleeper : t₁ ≠ t' := by
      rintro rfl
      rw [asleep] at wakes
      cases wakes
    have on : (c.thr t₁).pc.asleepOn = some (.respSlotState (idSlot id)) := by
      rw [inv.asleep t₁ id asleep]
      rfl
    cases watches with
    | same watch => exact .inl (by rw [watch])
    | register i before | leave i before | wakeup id' before | begin i w before =>
      rw [before] at wakes
      cases wakes
    | sleep id' here =>
      rw [Cfg.watch, here] at wakes
      cases wakes
    | quit i before none pc off now =>
      have slot : i = idSlot id := by
        cases watch : c.watch t' <;> rw [watch] at wakes before <;>
          simp_all [Watch.wakes]
      exact absurd (slot ▸ none) (inv.waiters_ne_zero threads asleep)
    | wake i k woken c₀ before woke pc off now =>
      have slot : i = idSlot id := by
        rcases before with ⟨watch, -⟩ | ⟨watch, -⟩ <;> rw [watch] at wakes <;>
          exact of_decide_eq_true wakes
      subst slot
      have same : c'.watch t₁ = c₀.watch t₁ := by
        rw [now, watch_goto, Function.update_of_ne sleeper]
      rw [same] at still
      rcases before with ⟨-, rfl⟩ | ⟨watch, rfl⟩
      · have awake := all_woken woke threads on (alive _)
        rw [Cfg.watch, awake, inv.asleep t₁ id asleep] at still
        cases still
      · obtain ⟨t₂, on₂, awake⟩ := some_woken woke Nat.one_pos on (alive _)
        obtain ⟨id₂, here, slot⟩ := asleepOn_state on₂
        refine .inr ⟨watch, rfl, t₂, id₂, ?_, watch_of_asleep here, slot⟩
        rintro rfl
        rw [Cfg.watch, awake, here] at still
        cases still
  · rcases watches.of_ne acts with same | ⟨id', here, -⟩
    · exact .inl same
    · rw [watch_of_asleep here] at wakes
      cases wakes

/-- Whoever cancels stays on the way to its wake-up, as long as somebody sleeps for its
slot. -/
theorem canceller_stays (inv : Awaited c) (alive : ∀ pid, c.dead pid = false)
    (threads : n ≤ 0x7FFFFFFF) (watches : Watches S c t c') {t₁ : Fin n} {id : UInt64}
    (asleep : c.watch t₁ = .asleep id) (still : c'.watch t₁ = .asleep id)
    (cancels : c.watch t' = .cancels (idSlot id)) : c'.watch t' = .cancels (idSlot id) := by
  have wakes : (c.watch t').wakes (idSlot id) = true := by
    rw [cancels]
    exact decide_eq_true rfl
  rcases inv.waker_stays alive threads watches asleep still wakes with same | ⟨publishes, -⟩
  · rw [same, cancels]
  · rw [publishes] at cancels
    cases cancels

theorem role_of_asleep (inv : Awaited c) {id : UInt64} (asleep : c.watch t = .asleep id) :
    c.view.role t = .waiting id := by
  change (c.thr t).pc.role = _
  rw [inv.asleep t id asleep]
  rfl

/-- Of two sleepers on a slot one has an old generation. -/
theorem canceller_of_two (inv : Awaited c) (ids : Ids S g₀ c.view) {t₁ t₂ : Fin n}
    {id₁ id₂ : UInt64} (other : t₂ ≠ t₁) (asleep₁ : c.watch t₁ = .asleep id₁)
    (asleep₂ : c.watch t₂ = .asleep id₂) (slot : idSlot id₂ = idSlot id₁) :
    ∃ t', c.watch t' = .cancels (idSlot id₁) := by
  have own₁ := ids.roles t₁
  have own₂ := ids.roles t₂
  rw [inv.role_of_asleep asleep₁] at own₁
  rw [inv.role_of_asleep asleep₂] at own₂
  by_cases gen : c.gen (idSlot id₁) = idGen id₁
  · rw [← slot]
    refine inv.moved t₂ id₂ asleep₂ fun gen₂ => other ?_
    have same : id₂ = id₁ := by
      rw [← packId_idGen_idSlot id₁, ← packId_idGen_idSlot id₂, ← gen, ← gen₂, slot]
    exact ids.once t₂ t₁ id₁ (same ▸ own₂) own₁
  · exact inv.moved t₁ id₁ asleep₁ gen

variable {act : Act n}

/-- If the generation has moved on, the canceller has yet to wake up the sleepers. -/
theorem moved_step (inv : Awaited c) (threads : n ≤ 0x7FFFFFFF) (base : Base S c)
    (holders : Holders g₀ c.view) (waits : c.view.Waits) (alive : ∀ pid, c.dead pid = false)
    (watches : Watches S c t c') (step : c.view.Step S (c.label S act) c'.view)
    (acts : act.thread = some t) (sleeps : SleepsCurrent c act)
    (stepped : c.step S act = some c') {t₁ : Fin n} {id : UInt64}
    (still : c'.watch t₁ = .asleep id) (moved : c'.gen (idSlot id) ≠ idGen id) :
    ∃ t', c'.watch t' = .cancels (idSlot id) := by
  rcases watches.asleep_cases still with asleep | ⟨rfl, here, unready, now⟩
  · by_cases gen : c.gen (idSlot id) = idGen id
    · -- the generation moves on in this step
      have changed : c'.view.gen (idSlot id) ≠ c.view.gen (idSlot id) := by
        intro same
        exact moved (same.trans gen)
      rcases step.bumper changed with ⟨t₂, takes⟩ | ⟨id', bumps, slot⟩
      · have role := inv.role_of_asleep asleep
        rcases waits t₁ id role gen with held | ⟨t', cancels⟩
        · have mine := holders.taking t₂ _ takes
          obtain rfl := Option.some.inj (held.symm.trans mine)
          rw [role] at takes
          cases takes
        · exact ⟨t', inv.canceller_stays alive threads watches asleep still
            (cancels_watch (base.bounded t') cancels)⟩
      · rw [← slot]
        exact watch_cancelBump bumps stepped
    · obtain ⟨t', cancels⟩ := inv.moved t₁ id asleep gen
      exact ⟨t', inv.canceller_stays alive threads watches asleep still cancels⟩
  · subst now
    obtain ⟨ans, rfl⟩ := run_of_moved stepped acts (by rw [here]; nofun) (by rw [here]; rfl)
      (by rw [goto_pc, here]; nofun)
    simp only [SleepsCurrent, here] at sleeps
    rcases sleeps trivial with gen | ⟨t', cancels⟩
    · exact absurd gen moved
    · refine ⟨t', ?_⟩
      rw [watch_goto, Function.update_of_ne ?_]
      · exact cancels
      · rintro rfl
        rw [Cfg.watch, here] at cancels
        cases cancels

/-- If the response is there, its writer has yet to wake up the sleepers. -/
theorem ready_step (inv : Awaited c) (threads : n ≤ 0x7FFFFFFF) (ids : Ids S g₀ c.view)
    (alive : ∀ pid, c.dead pid = false) (watches : Watches S c t c')
    (step : c.view.Step S (c.label S act) c'.view) (stepped : c.step S act = some c')
    {t₁ : Fin n} {id : UInt64} (still : c'.watch t₁ = .asleep id)
    (ready : c'.state (idSlot id) = layoutRespReady) :
    ∃ t', (c'.watch t').wakes (idSlot id) = true := by
  rcases watches.asleep_cases still with asleep | ⟨rfl, here, unready, now⟩
  · by_cases before : c.state (idSlot id) = layoutRespReady
    · obtain ⟨t', wakes⟩ := inv.ready t₁ id asleep before
      rcases inv.waker_stays alive threads watches asleep still wakes with
        same | ⟨-, -, t₂, id₂, other, asleep₂, slot⟩
      · exact ⟨t', by rwa [same]⟩
      · -- the publisher wakes another sleeper, and one of the two is stale
        obtain ⟨t₃, cancels⟩ := inv.canceller_of_two ids other asleep asleep₂ slot
        refine ⟨t₃, ?_⟩
        rw [inv.canceller_stays alive threads watches asleep still cancels]
        exact decide_eq_true rfl
    · obtain ⟨id', publishes, slot⟩ := step.publisher before ready
      obtain ⟨t', watch⟩ := watch_publish publishes stepped
      exact ⟨t', by rw [watch, slot]; exact decide_eq_true rfl⟩
  · subst now
    exact absurd ready unready

theorem asleep_step (inv : Awaited c) (watches : Watches S c t c')
    (stepped : c.step S act = some c') {t₁ : Fin n} {id : UInt64}
    (still : c'.watch t₁ = .asleep id) : (c'.thr t₁).pc = .waitAsleep id := by
  rcases watches.asleep_cases still with asleep | ⟨rfl, -, -, now⟩
  · have here := inv.asleep t₁ id asleep
    rcases step_asleep stepped (l := .respSlotState (idSlot id)) (by rw [here]; rfl) with
      same | awake
    · rw [same, here]
    · rw [Cfg.watch, awake, here] at still
      cases still
  · rw [now, goto_pc]

/-- A step leaves no sleeper without somebody to wake it up. -/
theorem step (inv : Awaited c) (queueOk : S.shm.QueueOk) (threads : n ≤ 0x7FFFFFFF)
    (base : Base S c) (ids : Ids S g₀ c.view) (holders : Holders g₀ c.view)
    (waits : c.view.Waits) (healthy : c.view.Healthy) (healthy' : c'.view.Healthy)
    (sleeps : SleepsCurrent c act) (stepped : c.step S act = some c') : Awaited c' := by
  have step := (step_simulated queueOk base stepped).2
  cases acts : act.thread with
  | none =>
    cases act with
    | die pid =>
      cases stepped
      have dead := healthy'.alive pid
      simp [Cfg.view] at dead
    | _ => cases acts
  | some t =>
    have watches := step_watches queueOk base acts stepped
    exact ⟨fun _ _ still => inv.asleep_step watches stepped still,
      watches.waiters_step inv.waiters,
      fun _ _ still moved => inv.moved_step threads base holders waits healthy.alive watches step
        acts sleeps stepped still moved,
      fun _ _ still ready => inv.ready_step threads ids healthy.alive watches step stepped still
        ready⟩

end Awaited

/-! ## The runs -/

/-- What the view keeps for the sleepers. -/
structure Known (S : Setup n) (g₀ : UInt32 → UInt32) (v : View n) : Prop where
  ids : Ids S g₀ v
  holders : Holders g₀ v
  waits : v.Waits

theorem Known.step (known : Known S g₀ v) (step : v.Step S label v') (healthy' : v'.Healthy)
    (timely : ∀ l, label = some l → Timely v l) : Known S g₀ v' := by
  have healthy := step.healthy healthy'
  have ids' := known.ids.step step healthy'.few
  cases step with
  | stutter => exact known
  | move live move =>
    exact ⟨ids', known.holders.step known.ids healthy healthy'.few move timely,
      known.waits.step known.ids healthy known.holders healthy'.few move⟩
  | die pid =>
    have dead := healthy'.alive pid
    simp at dead

theorem Start.awaited {c : Cfg n} (start : Start S c) (unwaited : ∀ i, c.waiters i = 0) :
    Awaited c := by
  have off : ∀ t, c.watch t = .off := fun t => by
    rw [Cfg.watch, start.idle t]
    rfl
  have none : ∀ t id, c.watch t ≠ .asleep id := fun t id asleep => by
    rw [off t] at asleep
    cases asleep
  refine ⟨fun t id asleep => absurd asleep (none t id), fun i => ?_,
    fun t id asleep => absurd asleep (none t id), fun t id asleep => absurd asleep (none t id)⟩
  rw [unwaited i, Count.count_eq_zero.mpr fun t => by rw [off t]; rfl]
  rfl

theorem Start.waits {c : Cfg n} (start : Start S c) : c.view.Waits := by
  intro t id role
  rw [start.role t] at role
  cases role

/-- No response wake-up is lost. In every run without deaths, of fewer than 2^31
goroutines, whose cancellations, reads and drains come in time and in which no
client goes to sleep behind a canceller of its request that is done: while a
client sleeps that should not, somebody is about to wake the sleepers of its
slot. -/
theorem no_wake_lost (queueOk : S.shm.QueueOk) (threads : n ≤ 0x7FFFFFFF) {c c' : Cfg n}
    {acts : List (Act n)} (start : Start S c) (unwaited : ∀ i, c.waiters i = 0)
    (ran : c.steps S acts = some c')
    (always : Runs.Always (Cfg.step S)
      (fun c act => Guarded S Timely c act ∧ SleepsCurrent c act) c acts)
    (healthy : c'.view.Healthy) {t : Fin n} {id : UInt64}
    (asleep : (c'.thr t).pc = .waitAsleep id)
    (due : (c'.state (idSlot id) = layoutRespReady ∧ c'.gen (idSlot id) = idGen id) ∨
      c'.gen (idSlot id) ≠ idGen id) :
    ∃ t', (c'.watch t').wakes (idSlot id) = true := by
  have reached : Base S c' ∧ (c'.view.Healthy → Known S c.gen c'.view ∧ Awaited c') := by
    refine Runs.invariant
      (fun c₁ => Base S c₁ ∧ (c₁.view.Healthy → Known S c.gen c₁.view ∧ Awaited c₁)) ?_ ran always
      ⟨start.base, fun _ => ⟨⟨start.ids, start.holders, start.waits⟩, start.awaited unwaited⟩⟩
    rintro c₁ act c₂ ⟨base, before⟩ ⟨timely, sleeps⟩ stepped
    obtain ⟨base', step⟩ := step_simulated queueOk base stepped
    refine ⟨base', fun healthy' => ?_⟩
    have healthy := step.healthy healthy'
    obtain ⟨known, awaited⟩ := before healthy
    exact ⟨known.step step healthy' fun _ same => timely.label same,
      awaited.step queueOk threads base known.ids known.holders known.waits healthy healthy' sleeps
        stepped⟩
  obtain ⟨-, awaited⟩ := reached.2 healthy
  have sleeps := watch_of_asleep asleep
  rcases due with ⟨ready, -⟩ | moved
  · exact awaited.ready t id sleeps ready
  · obtain ⟨t', cancels⟩ := awaited.moved t id sleeps moved
    exact ⟨t', by rw [cancels]; exact decide_eq_true rfl⟩

/-- The client of a request sleeps when its response is published. -/
def sleepingClient : List (Act 2) :=
  [[.query 0 [1]], go 0 110, [.serve 1], go 1 3, [.run 1 { reply := some [7] }], go 1 6].flatten

theorem no_wake_lost_sleepingClient :
    ∃ c', (freshCfg 2).steps (tinySetup 2) sleepingClient = some c' ∧
      ∃ t', (c'.watch t').wakes 0 = true := by
  have ends : ((freshCfg 2).steps (tinySetup 2) sleepingClient).any (fun c =>
      decide ((c.thr 0).pc = .waitAsleep (packId 1 0) ∧ c.state 0 = layoutRespReady ∧
        c.gen 0 = 1)) = true := by decide +kernel
  obtain ⟨c', ran, last⟩ := (Option.any_eq_true _ _).mp ends
  obtain ⟨asleep, ready, gen⟩ := of_decide_eq_true last
  have healthy := (freshCfg_start 2).healthy (by decide) ran (by decide +kernel) (by decide +kernel)
  have always : Runs.Always (Cfg.step (tinySetup 2))
      (fun c act => Guarded (tinySetup 2) Timely c act ∧ SleepsCurrent c act) (freshCfg 2)
      sleepingClient := by decide +kernel
  exact ⟨c', ran, no_wake_lost (by decide) (by decide) (freshCfg_start 2) (fun _ => rfl) ran
    always healthy asleep (.inl ⟨ready, gen⟩)⟩

/-- The handler fails. The server's cancellation has freed the slot and not yet
incremented its generation when the client looks for the last time; it wakes
nobody, and then the client goes to sleep on the word that it loaded. -/
def sleepBehindCancel : List (Act 2) :=
  [[.query 0 [1]], go 0 105, [.serve 1], go 1 6, go 0 4, go 1 6, go 0 1].flatten

theorem sleepBehindCancel_strands :
    ∃ c', (freshCfg 2).steps (tinySetup 2) sleepBehindCancel = some c' ∧ c'.view.Healthy ∧
      (c'.thr 0).pc = .waitAsleep (packId 1 0) ∧ c'.gen 0 ≠ 1 ∧ (c'.thr 1).pc = .idle ∧
      ∀ t', (c'.watch t').wakes 0 = false := by
  have ends : ((freshCfg 2).steps (tinySetup 2) sleepBehindCancel).any (fun c =>
      decide ((c.thr 0).pc = .waitAsleep (packId 1 0) ∧ c.gen 0 ≠ 1 ∧ (c.thr 1).pc = .idle ∧
        ∀ t', (c.watch t').wakes 0 = false)) = true := by decide +kernel
  obtain ⟨c', ran, last⟩ := (Option.any_eq_true _ _).mp ends
  have stranded := of_decide_eq_true last
  have healthy := (freshCfg_start 2).healthy (by decide) ran (by decide +kernel) (by decide +kernel)
  exact ⟨c', ran, healthy, stranded⟩

end ReqRep
