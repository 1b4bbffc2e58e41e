import ReqRep.Machine.Holder

/-!
# Slot ownership is stable

From the last increment of its acquisition to the first step that ends it, a
request keeps its slot, its generation and its owner. Cancellations, reads and
drains have to act on the id that holds the slot, and the two later stores of a
cancellation must not hit a slot that somebody else has settled in.
-/

namespace ReqRep

variable {n : Nat} {S : Setup n} {g₀ : UInt32 → UInt32} {v v' : View n} {t : Fin n}
  {label : Option Label}

/-- Acquired by `t`, and not ended. -/
def View.Live (v : View n) (t : Fin n) (id : UInt64) : Prop :=
  .acquired t id ∈ v.log ∧ .ended id ∉ v.log

/-- The holder of slot `i` has yet to store its pid, or has taken it back. -/
def Role.ownerless (i : UInt32) : Role → Prop
  | .taking j .own => j = i
  | .releasing id .state _ => idSlot id = i
  | _ => False

/-- The holder of slot `i` has yet to count its generation, or is done with it. -/
def Role.uncounted (i : UInt32) : Role → Prop
  | .taking j _ => j = i
  | .releasing id .state _ => idSlot id = i
  | _ => False

theorem Role.ownerless.uncounted {i : UInt32} {r : Role} (ownerless : r.ownerless i) :
    r.uncounted i := by
  cases r with
  | taking j p => cases p <;> first | exact ownerless | exact ownerless.elim
  | releasing id p next => cases p <;> exact ownerless
  | _ => exact ownerless

instance (i : UInt32) (r : Role) : Decidable (r.ownerless i) := by
  unfold Role.ownerless
  split <;> infer_instance

instance (i : UInt32) (r : Role) : Decidable (r.uncounted i) := by
  unfold Role.uncounted
  split <;> infer_instance

/-- Checks still hold when a step acts on them, and the owner store and the
increment of a cancellation find no request that has settled in the slot. -/
def Orderly (v : View n) : Label → Prop
  | .cancel id | .read id | .drain id => v.Current id
  | .clearOwner id => ∀ t, v.holder (idSlot id) = some t → (v.role t).ownerless (idSlot id)
  | .bump id => ∀ t, v.holder (idSlot id) = some t → (v.role t).uncounted (idSlot id)
  | _ => True

instance (v : View n) : ∀ l, Decidable (Orderly v l)
  | .cancel id | .read id | .drain id => inferInstanceAs (Decidable (v.Current id))
  | .clearOwner id => inferInstanceAs (Decidable (∀ t, v.holder (idSlot id) = some t →
      (v.role t).ownerless (idSlot id)))
  | .bump id => inferInstanceAs (Decidable (∀ t, v.holder (idSlot id) = some t →
      (v.role t).uncounted (idSlot id)))
  | .take _ | .fill _ | .publish _ | .condemn _ _ | .die _ => inferInstanceAs (Decidable True)

theorem Orderly.timely {l : Label} (orderly : Orderly v l) : Timely v l := by
  cases l <;> first | exact orderly | trivial

/-- The slot of a live id is its owner's, with its generation and its pid. -/
structure Owned (S : Setup n) (v : View n) : Prop where
  live : ∀ t id, v.Live t id → v.holder (idSlot id) = some t ∧ v.gen (idSlot id) = idGen id ∧
    v.owner (idSlot id) = S.pid t
  window : ∀ i, v.InWindow i → ∀ t id, idSlot id = i → ¬ v.Live t id
  stored : ∀ t i p, v.role t = .taking i p → p ≠ .own → v.owner i = S.pid t
  released : ∀ t id next, v.role t = .releasing id .state next → .ended id ∈ v.log

namespace Owned

/-- The holder of the slot of a live id is at no other id of the slot. -/
theorem eq_of_holds (inv : Owned S v) (ids : Ids S g₀ v) (few : v.Few) (holders : Holders g₀ v)
    {t' : Fin n} {id id' : UInt64} (live : v.Live t id) (holds : (v.role t').holds = some id')
    (has : (v.role t').id = some id') (slot : idSlot id' = idSlot id) : id' = id := by
  refine Holders.eq_of_newest (ids.issued_of_role has) ⟨t, live.1⟩ (holders.holds t' id' holds).2
    ?_ slot
  intro id₁ issued same
  rw [ids.age_of_gen few (inv.live t id live).2.1, ← same]
  exact ids.young id₁ issued

/-- The slot of a live id whose holder is `ownerless` or `uncounted` is not there. -/
theorem not_uncounted (inv : Owned S v) (ids : Ids S g₀ v) (few : v.Few) (holders : Holders g₀ v)
    {id : UInt64} (live : v.Live t id) : ¬ (v.role t).uncounted (idSlot id) := by
  intro uncounted
  cases role : v.role t with
  | taking i p =>
    rw [role] at uncounted
    exact inv.window i ⟨t, congrArg Role.takes role⟩ t id uncounted.symm live
  | releasing id' p next =>
    rw [role] at uncounted
    cases p with
    | owner => exact uncounted
    | state =>
      obtain rfl := inv.eq_of_holds ids few holders live (congrArg Role.holds role)
        (congrArg Role.id role) uncounted
      exact live.2 (inv.released t _ next role)
  | _ =>
    rw [role] at uncounted
    exact uncounted

/-- An orderly move leaves the slot of a live id alone. -/
theorem untouched (inv : Owned S v) (ids : Ids S g₀ v) (healthy : v.Healthy)
    (holders : Holders g₀ v) (move : Move S v t label v')
    (orderly : ∀ l, label = some l → Orderly v l) {t₁ : Fin n} {id : UInt64}
    (live : v.Live t₁ id) (still : v'.Live t₁ id) :
    v'.holder (idSlot id) = v.holder (idSlot id) ∧ v'.gen (idSlot id) = v.gen (idSlot id) ∧
      v'.owner (idSlot id) = v.owner (idSlot id) := by
  obtain ⟨held, gen, owner⟩ := inv.live t₁ id live
  have settled := inv.not_uncounted ids healthy.few holders live
  cases move with
  | @take i role bound free =>
    have other : idSlot id ≠ i := by
      rintro rfl
      rw [(holders.free _).mp free] at held
      cases held
    exact ⟨by simp [View.become, View.setState, other], rfl, rfl⟩
  | clear role => exact absurd role (ids.calm healthy.alive)
  | free role => exact absurd role (ids.calm healthy.alive)
  | @own i role =>
    have other : idSlot id ≠ i := fun same =>
      inv.window i ⟨t, congrArg Role.takes role⟩ t₁ id same live
    exact ⟨rfl, rfl, by simp [View.become, View.setOwner, other]⟩
  | @incZero i role zero =>
    have other : idSlot id ≠ i := fun same =>
      inv.window i ⟨t, congrArg Role.takes role⟩ t₁ id same live
    exact ⟨rfl, by simp [View.become, View.bump, other], rfl⟩
  | @inc i p role last =>
    have other : idSlot id ≠ i := fun same =>
      inv.window i ⟨t, congrArg Role.takes role⟩ t₁ id same live
    exact ⟨rfl, by simp [View.become, View.note, View.bump, other], rfl⟩
  | @releaseOwner id' next role =>
    have other : idSlot id ≠ idSlot id' := by
      intro same
      obtain rfl := inv.eq_of_holds ids healthy.few holders live (congrArg Role.holds role)
        (congrArg Role.id role) same.symm
      exact still.2 List.mem_cons_self
    exact ⟨rfl, rfl, by simp [View.become, View.note, View.setOwner, other]⟩
  | @releaseState id' next role =>
    have other : idSlot id ≠ idSlot id' := by
      intro same
      obtain rfl := inv.eq_of_holds ids healthy.few holders live (congrArg Role.holds role)
        (congrArg Role.id role) same.symm
      exact live.2 (inv.released t _ next role)
    exact ⟨by simp [View.become, View.setState, other], rfl, rfl⟩
  | @casHit id' next role acquired =>
    have other : idSlot id ≠ idSlot id' := by
      intro same
      have current : v.Current id' := orderly _ rfl
      have equal : id' = id := by
        rw [← packId_idGen_idSlot id', ← packId_idGen_idSlot id, ← current.2.1, ← gen, same]
      subst equal
      exact still.2 List.mem_cons_self
    exact ⟨by simp [View.become, View.note, View.setState, other], rfl, rfl⟩
  | @cancelOwner id' next role =>
    have other : idSlot id ≠ idSlot id' := by
      intro same
      have ownerless := orderly _ rfl t₁ (same ▸ held)
      rw [← same] at ownerless
      exact settled ownerless.uncounted
    exact ⟨rfl, rfl, by simp [View.become, View.setOwner, other]⟩
  | @cancelBump id' next role =>
    have other : idSlot id ≠ idSlot id' := by
      intro same
      have uncounted := orderly _ rfl t₁ (same ▸ held)
      rw [← same] at uncounted
      exact settled uncounted
    exact ⟨rfl, by simp [View.become, View.bump, other], rfl⟩
  | _ => exact ⟨rfl, rfl, rfl⟩

/-- Behind its owner store a goroutine that takes a slot is its owner. -/
theorem stored_of_move (inv : Owned S v) (ids : Ids S g₀ v) (move : Move S v t label v')
    {i : UInt32} {p : Taking} (role' : v'.role t = .taking i p) (ne : p ≠ .own) :
    v'.owner i = S.pid t := by
  have roles := ids.roles t
  cases move with
  | own role =>
    rw [View.become_role] at role'
    obtain ⟨rfl, -⟩ := Role.taking.inj role'
    simp [View.become, View.setOwner]
  | incZero role =>
    rw [View.become_role] at role'
    obtain ⟨rfl, -⟩ := Role.taking.inj role'
    exact inv.stored t _ _ role (by rintro ⟨⟩)
  | take role =>
    rw [View.become_role] at role'
    obtain ⟨-, rfl⟩ := Role.taking.inj role'
    exact absurd rfl ne
  | releaseState role =>
    rw [role] at roles
    rw [View.become_role] at role'
    rcases roles.2 with rfl | ⟨bytes, rfl⟩ | rfl <;> cases role'
  | cancelMiss role | casMiss role | cancelBump role =>
    rw [role] at roles
    rw [View.become_role] at role'
    rcases roles.2 with rfl | ⟨rfl, -⟩ <;> cases role'
  | send role =>
    rw [View.become_role] at role'
    split at role' <;> cases role'
  | readLen role | readByte role =>
    rw [View.become_role, Role.readNext] at role'
    split at role' <;> cases role'
  | _ =>
    rw [View.become_role] at role'
    cases role'

/-- An orderly move keeps the owners. -/
theorem step (inv : Owned S v) (ids : Ids S g₀ v) (healthy : v.Healthy)
    (holders : Holders g₀ v) (few : v'.Few) (move : Move S v t label v')
    (orderly : ∀ l, label = some l → Orderly v l) : Owned S v' := by
  have older : ∀ {t₁ id}, v'.Live t₁ id → .acquired t₁ id ∈ v.log → v.Live t₁ id :=
    fun live old => ⟨old, fun ended => live.2 (move.log_subset ended)⟩
  refine ⟨fun t₁ id live => ?_, fun i window t₁ id slot live => ?_, fun t' i p role ne => ?_,
    fun t' id next role => ?_⟩
  · rcases move.acquired_of live.1 with old | ⟨rfl, i, p, role, last, rfl, -, rfl⟩
    · have before := older live old
      obtain ⟨holder, gen, owner⟩ := inv.untouched ids healthy holders move orderly before live
      rw [holder, gen, owner]
      exact inv.live t₁ id before
    · rw [idSlot_packId, idGen_packId]
      refine ⟨holders.taking t₁ i (congrArg Role.takes role), ?_, ?_⟩
      · simp [View.become, View.note, View.bump]
      · refine inv.stored t₁ i p role ?_
        rcases last with ⟨rfl, -⟩ | rfl <;> rintro ⟨⟩
  · obtain ⟨t', takes⟩ := window
    rcases move.acquired_of live.1 with old | ⟨rfl, j, p, role, last, rfl, -, rfl⟩
    · have before := older live old
      by_cases same : t' = t
      · subst same
        rcases ids.takes_of_move move takes with already | free
        · exact inv.window i ⟨t', already⟩ t₁ id slot before
        · have held := (inv.live t₁ id before).1
          rw [slot, (holders.free i).mp free] at held
          cases held
      · rw [move.role_of_ne same] at takes
        exact inv.window i ⟨t', takes⟩ t₁ id slot before
    · obtain rfl : j = i := (idSlot_packId _ _).symm.trans slot
      have other : t' ≠ t₁ := by
        rintro rfl
        rw [View.become_role] at takes
        cases takes
      rw [View.become_role_of_ne _ _ other] at takes
      have held := holders.taking t₁ j (congrArg Role.takes role)
      exact other (Option.some.inj ((holders.taking t' j takes).symm.trans held))
  · by_cases same : t' = t
    · subst same
      exact inv.stored_of_move ids move role ne
    · rw [move.role_of_ne same] at role
      rw [← inv.stored t' i p role ne]
      have held := holders.taking t' i (congrArg Role.takes role)
      have other : ∀ {j}, v.holder j = some t → i ≠ j := by
        rintro j held' rfl
        exact same (Option.some.inj (held.symm.trans held'))
      cases move with
      | own role' =>
        have ne := other (holders.taking t _ (congrArg Role.takes role'))
        simp [View.become, View.setOwner, ne]
      | releaseOwner role' =>
        have ne := other (holders.holds t _ (congrArg Role.holds role')).1
        simp [View.become, View.note, View.setOwner, ne]
      | @cancelOwner id next role' =>
        have ne : i ≠ idSlot id := by
          rintro rfl
          have ownerless := orderly _ rfl t' held
          rw [role] at ownerless
          cases p <;> first | exact ne rfl | exact ownerless
        simp [View.become, View.setOwner, ne]
      | clear role' => exact absurd role' (ids.calm healthy.alive)
      | _ => rfl
  · by_cases same : t' = t
    · subst same
      exact ids.releasing_of_move move role
    · rw [move.role_of_ne same] at role
      exact move.log_subset (inv.released t' id next role)

end Owned

/-! ## The runs -/

theorem Start.owned {c : Cfg n} (start : Start S c) : Owned S c.view := by
  have unlogged : ∀ e, e ∉ c.view.log := fun e => by simp [Cfg.view, start.log]
  refine ⟨fun t id live => absurd live.1 (unlogged _), ?_, fun t i p role => ?_,
    fun t id next role => ?_⟩
  · rintro i - t id - live
    exact unlogged _ live.1
  · rw [start.role t] at role
    cases role
  · rw [start.role t] at role
    cases role

/-- Slot ownership is stable. In every run without deaths whose cancellations,
reads and drains come in time, an id that was acquired and that nobody has ended
has its slot, with its generation and the pid of its acquirer. -/
theorem ownership_stable (queueOk : S.shm.QueueOk) {c c' : Cfg n} {acts : List (Act n)}
    (start : Start S c) (ran : c.steps S acts = some c')
    (orderly : Runs.Always (Cfg.step S) (Guarded S Orderly) c acts)
    (healthy : c'.view.Healthy) {t : Fin n} {id : UInt64} (acquired : .acquired t id ∈ c'.log)
    (unended : .ended id ∉ c'.log) :
    c'.state (idSlot id) ≠ layoutRespFree ∧ c'.gen (idSlot id) = idGen id ∧
      c'.owner (idSlot id) = S.pid t := by
  have invs : Holders c.gen c'.view ∧ Owned S c'.view := (healthy_invariant queueOk
    (fun v => Holders c.gen v ∧ Owned S v)
    (fun v t label v' ids healthy healthy' move ok inv =>
      ⟨inv.1.step ids healthy healthy'.few move fun l same => (ok l same).timely,
        inv.2.step ids healthy inv.1 healthy'.few move ok⟩)
    start ⟨start.holders, start.owned⟩ ran orderly healthy).2
  obtain ⟨held, gen, owner⟩ := invs.2.live t id ⟨acquired, unended⟩
  refine ⟨fun free => ?_, gen, owner⟩
  rw [(invs.1.free _).mp free] at held
  cases held

/-- A request is cancelled, and another one waits with the slot. -/
def secondRequest : List (Act 3) :=
  [[.query 0 [1]], go 0 8, [.serve 1], go 1 11, [.cancelCtx 0], go 0 3, [.query 2 [2]],
    go 2 8].flatten

theorem ownership_stable_secondRequest :
    ∃ c', (freshCfg 3).steps (tinySetup 3) secondRequest = some c' ∧
      c'.state 0 ≠ layoutRespFree ∧ c'.gen 0 = 3 ∧ c'.owner 0 = (tinySetup 3).pid 2 := by
  have ends : ((freshCfg 3).steps (tinySetup 3) secondRequest).any (fun c =>
      decide (.acquired 2 (packId 3 0) ∈ c.log ∧ .ended (packId 3 0) ∉ c.log)) = true := by
    decide +kernel
  obtain ⟨c', ran, last⟩ := (Option.any_eq_true _ _).mp ends
  obtain ⟨acquired, unended⟩ := of_decide_eq_true last
  have healthy := (freshCfg_start 3).healthy (by decide) ran (by decide) (by decide)
  have orderly : Runs.Always (Cfg.step (tinySetup 3)) (Guarded (tinySetup 3) Orderly)
      (freshCfg 3) secondRequest := by decide +kernel
  have stable := ownership_stable (by decide) (freshCfg_start 3) ran orderly healthy acquired
    unended
  exact ⟨c', ran, by simpa using stable⟩

/-- The same, but the last stores of the cancellation come when the second request
has settled in: its slot has no owner any more, and another generation. -/
def lateStores : List (Act 3) :=
  [[.query 0 [1]], go 0 8, [.serve 1], go 1 6, [.cancelCtx 0], go 0 5, [.query 2 [2]], go 2 8,
    go 1 5].flatten

theorem lateStores_break_ownership :
    ∃ c', (freshCfg 3).steps (tinySetup 3) lateStores = some c' ∧ c'.view.Healthy ∧
      .acquired 2 (packId 2 0) ∈ c'.log ∧ .ended (packId 2 0) ∉ c'.log ∧
      c'.gen 0 ≠ 2 ∧ c'.owner 0 ≠ (tinySetup 3).pid 2 := by
  have ends : ((freshCfg 3).steps (tinySetup 3) lateStores).any (fun c =>
      decide (.acquired 2 (packId 2 0) ∈ c.log ∧ .ended (packId 2 0) ∉ c.log ∧
        c.gen 0 ≠ 2 ∧ c.owner 0 ≠ (tinySetup 3).pid 2)) = true := by
    decide +kernel
  obtain ⟨c', ran, last⟩ := (Option.any_eq_true _ _).mp ends
  have broken := of_decide_eq_true last
  have healthy := (freshCfg_start 3).healthy (by decide) ran (by decide) (by decide)
  exact ⟨c', ran, healthy, broken⟩

end ReqRep
