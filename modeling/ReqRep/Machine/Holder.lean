import ReqRep.Machine.Start

/-!
# Who holds a slot

While cancellations, reads and drains act on the id that holds their slot, the
slot of a goroutine that is sending, reading or releasing is its own, and a
current id is that of the holder. The publications and the later stores of a
cancellation may come at any time.
-/

namespace ReqRep

variable {n : Nat} {S : Setup n} {g₀ : UInt32 → UInt32} {v v' : View n} {t : Fin n}
  {label : Option Label}

/-- The checks of a cancellation, a read or a drain still hold when it acts. -/
def Timely (v : View n) : Label → Prop
  | .cancel id | .read id | .drain id => v.Current id
  | _ => True

instance (v : View n) (l : Label) : Decidable (Timely v l) := by
  unfold Timely
  split <;> infer_instance

/-- The id whose slot is surely the goroutine's. -/
def Role.holds : Role → Option UInt64
  | .unsent id | .reading id _ | .releasing id .. => some id
  | _ => none

/-- No later id of its slot was given out. -/
def View.Newest (g₀ : UInt32 → UInt32) (v : View n) (id : UInt64) : Prop :=
  ∀ id', v.Issued id' → idSlot id' = idSlot id → age g₀ id' ≤ age g₀ id

/-- What a role of goroutine `t` says about its slot. -/
def View.RoleHolds (v : View n) (t : Fin n) : Role → Prop
  | .unsent id => v.Secret t id
  | .sawReady id => v.holder (idSlot id) = some t → v.state (idSlot id) = layoutRespReady
  | .reading id _ => v.state (idSlot id) = layoutRespReady
  | .releasing id .. => v.state (idSlot id) = layoutRespReady ∨ v.Secret t id
  | _ => True

/-- A slot is taken exactly when it has a holder, and each role knows what it should of the
slot that its goroutine holds. -/
structure Holders (g₀ : UInt32 → UInt32) (v : View n) : Prop where
  free : ∀ i, v.state i = layoutRespFree ↔ v.holder i = none
  taking : ∀ t i, (v.role t).takes = some i → v.holder i = some t
  holds : ∀ t id, (v.role t).holds = some id →
    v.holder (idSlot id) = some t ∧ v.Newest g₀ id
  newest : ∀ i t, v.holder i = some t → (v.role t).takes = some i ∨
    ∃ id, .acquired t id ∈ v.log ∧ idSlot id = i ∧ v.Newest g₀ id
  roles : ∀ t, v.RoleHolds t (v.role t)

namespace Holders

/-! ## Current ids -/

theorem newest_of_current (ids : Ids S g₀ v) (few : v.Few) {id : UInt64} (current : v.Current id) :
    v.Newest g₀ id := by
  intro id' issued slot
  rw [ids.age_of_gen few current.2.1, ← slot]
  exact ids.young id' issued

theorem eq_of_newest {id id' : UInt64} (issued : v.Issued id) (issued' : v.Issued id')
    (newest : v.Newest g₀ id) (newest' : v.Newest g₀ id') (slot : idSlot id = idSlot id') :
    id = id' :=
  Ids.eq_of_age slot (le_antisymm (newest' id issued slot) (newest id' issued' slot.symm))

/-- The goroutine that acquired a current id holds its slot. -/
theorem of_current (inv : Holders g₀ v) (ids : Ids S g₀ v) (few : v.Few) {id : UInt64}
    (current : v.Current id) (own : .acquired t id ∈ v.log) : v.holder (idSlot id) = some t := by
  cases holder : v.holder (idSlot id) with
  | none => exact absurd ((inv.free _).mpr holder) current.1
  | some t' =>
    rcases inv.newest _ t' holder with window | ⟨id', own', slot, newest⟩
    · exact absurd ⟨t', window⟩ current.2.2
    · obtain rfl : id' = id := eq_of_newest ⟨t', own'⟩ ⟨t, own⟩ newest
        (newest_of_current ids few current) slot
      rw [ids.once t' t id' own' own]

/-! ## Moves -/

/-- A role stays good when another goroutine moves and leaves its slot alone, as
far as it is its own. -/
theorem roleHolds_frame {r : Role} (role : v.RoleHolds t r)
    (slot : ∀ id, r.holds = some id ∨ v'.holder (idSlot id) = some t →
      v'.state (idSlot id) = v.state (idSlot id) ∨ v'.state (idSlot id) = layoutRespReady)
    (holder : ∀ i, v'.holder i = some t → v.holder i = some t)
    (secret : ∀ id, r.id = some id → v.Secret t id → v'.Secret t id) : v'.RoleHolds t r := by
  have ready : ∀ id, r.holds = some id ∨ v'.holder (idSlot id) = some t →
      v.state (idSlot id) = layoutRespReady → v'.state (idSlot id) = layoutRespReady := by
    intro id own ready
    rcases slot id own with same | done
    · rw [same, ready]
    · exact done
  cases r with
  | unsent id => exact secret id rfl role
  | sawReady id => exact fun held => ready id (.inr held) (role (holder _ held))
  | reading id p => exact ready id (.inl rfl) role
  | releasing id p next => exact role.imp (ready id (.inl rfl)) (secret id rfl)
  | _ => trivial

/-- A goroutine goes on with its id, or gets one from the queue or a new one. -/
theorem id_of_move (ids : Ids S g₀ v) (move : Move S v t label v') (few : v'.Few) {id : UInt64}
    (has : (v'.role t).id = some id) :
    (v.role t).id = some id ∨ id ∈ v.pending ∨ ¬ v.Issued id := by
  have roles := ids.roles t
  cases move with
  | inc role last =>
    rw [View.become_role] at has
    obtain rfl := Option.some.inj has
    exact .inr (.inr (ids.not_issued few role last (by simp [View.become, View.note, View.bump])))
  | recv role first =>
    rw [View.become_role] at has
    obtain rfl := Option.some.inj has
    exact .inr (.inl (by rw [first]; exact List.mem_cons_self))
  | read role =>
    rw [View.become_role] at has
    rcases role with ⟨role, -⟩ | ⟨role, -⟩ <;> exact .inl ((congrArg Role.id role).trans has)
  | giveUp role =>
    rw [View.become_role] at has
    rcases role with role | role <;> exact .inl ((congrArg Role.id role).trans has)
  | releaseState role =>
    rw [View.become_role] at has
    rw [role] at roles
    rcases roles.2 with rfl | ⟨bytes, rfl⟩ | rfl <;>
      first | exact .inl ((congrArg Role.id role).trans has) | cases has
  | cancelMiss role | casMiss role | cancelBump role =>
    rw [View.become_role] at has
    rw [role] at roles
    rcases roles.2 with rfl | ⟨rfl, -⟩ <;>
      first | exact .inl ((congrArg Role.id role).trans has) | cases has
  | send role =>
    rw [View.become_role] at has
    split at has
    · exact .inl ((congrArg Role.id role).trans has)
    · cases has
  | readLen role | readByte role =>
    rw [View.become_role, Role.id_readNext] at has
    exact .inl ((congrArg Role.id role).trans has)
  | hint role | drop role | releaseOwner role | look role | readLong role | cancelHit role
  | casHit role | cancelOwner role | drainHit role | drainFree role | fail role | reply role
  | writeState role | writeGen role | writeByte role | writeLen role =>
    rw [View.become_role] at has
    exact .inl ((congrArg Role.id role).trans has)
  | _ =>
    rw [View.become_role] at has
    cases has

/-- What is queued was queued before, or its goroutine had the id. -/
theorem pending_of_move (move : Move S v t label v') {id : UInt64} (queued : id ∈ v'.pending) :
    id ∈ v.pending ∨ (v.role t).id = some id := by
  cases move with
  | send role =>
    rcases List.mem_append.mp queued with old | new
    · exact .inl old
    · rw [role, List.mem_singleton.mp new]
      exact .inr rfl
  | recv role first =>
    rw [first]
    exact .inl (List.mem_cons_of_mem _ queued)
  | _ => exact .inl queued

/-- What nobody else has stays so while its owner does not move. -/
theorem secret_frame (ids : Ids S g₀ v) (move : Move S v t label v') (few : v'.Few) {t' : Fin n}
    (other : t ≠ t') {id : UInt64} (issued : v.Issued id) (secret : v.Secret t' id) :
    v'.Secret t' id := by
  refine ⟨fun queued => ?_, fun t₁ ne has => ?_⟩
  · rcases pending_of_move move queued with old | new
    · exact secret.1 old
    · exact secret.2 t other new
  · by_cases same : t₁ = t
    · subst same
      rcases id_of_move ids move few has with old | queued | fresh
      · exact secret.2 t₁ ne old
      · exact secret.1 queued
      · exact fresh issued
    · rw [move.role_of_ne same] at has
      exact secret.2 t₁ ne has

/-- A move that frees no slot, takes none and gives out no id. -/
theorem keep (inv : Holders g₀ v) (ids : Ids S g₀ v) {r : Role}
    (move : Move S v t label v') (few : v'.Few) (become : v'.role t = r)
    (state : ∀ i, v'.state i = v.state i ∨
      v.state i ≠ layoutRespFree ∧ v'.state i = layoutRespReady)
    (holder : v'.holder = v.holder)
    (issued : ∀ t id, .acquired t id ∈ v'.log → .acquired t id ∈ v.log)
    (takes : r.takes = (v.role t).takes)
    (holds : ∀ id, r.holds = some id → (v.role t).holds = some id ∨
      v.holder (idSlot id) = some t ∧ v.Newest g₀ id)
    (role : v'.RoleHolds t r) : Holders g₀ v' := by
  subst become
  have newest : ∀ {id}, v.Newest g₀ id → v'.Newest g₀ id := fun newest id' given slot =>
    newest id' (given.imp fun t => issued t id') slot
  refine ⟨fun i => ?_, fun t' i has => ?_, fun t' id has => ?_, fun i t' held => ?_, fun t' => ?_⟩
  · rw [holder, ← inv.free i]
    rcases state i with same | ⟨taken, ready⟩
    · rw [same]
    · exact iff_of_false (by rw [ready]; decide) taken
  · rw [holder]
    by_cases same : t' = t
    · subst same
      exact inv.taking t' i (takes.symm.trans has)
    · rw [move.role_of_ne same] at has
      exact inv.taking t' i has
  · rw [holder]
    by_cases same : t' = t
    · subst same
      rcases holds id has with before | ⟨held, new⟩
      · obtain ⟨held, new⟩ := inv.holds t' id before
        exact ⟨held, newest new⟩
      · exact ⟨held, newest new⟩
    · rw [move.role_of_ne same] at has
      obtain ⟨held, new⟩ := inv.holds t' id has
      exact ⟨held, newest new⟩
  · rw [holder] at held
    rcases inv.newest i t' held with window | ⟨id, own, slot, new⟩
    · left
      by_cases same : t' = t
      · subst same
        exact takes.trans window
      · rwa [move.role_of_ne same]
    · exact .inr ⟨id, move.log_subset own, slot, newest new⟩
  · by_cases same : t' = t
    · subst same
      exact role
    · rw [move.role_of_ne same]
      refine roleHolds_frame (inv.roles t') (fun id _ => (state (idSlot id)).imp_right And.right)
        (fun i held => by rwa [holder] at held) fun id has secret => ?_
      exact secret_frame ids move few (Ne.symm same) (ids.issued_of_role has) secret

/-- A move that frees slot `i`, with nobody else at it. -/
theorem freed (inv : Holders g₀ v) (ids : Ids S g₀ v) {i : UInt32} {r : Role}
    (move : Move S v t label v') (few : v'.Few) (become : v'.role t = r)
    (state : v'.state = Function.update v.state i layoutRespFree)
    (holder : v'.holder = Function.update v.holder i none)
    (issued : ∀ t id, .acquired t id ∈ v'.log → .acquired t id ∈ v.log)
    (alone : ∀ t' ≠ t, (v.role t').takes ≠ some i ∧
      ∀ id, (v.role t').holds = some id → idSlot id ≠ i)
    (before : (v.role t).takes = none) (takes : r.takes = none) (holds : r.holds = none)
    (role : v'.RoleHolds t r) : Holders g₀ v' := by
  subst become
  have newest : ∀ {id}, v.Newest g₀ id → v'.Newest g₀ id := fun newest id' given slot =>
    newest id' (given.imp fun t => issued t id') slot
  have held_of : ∀ {j t'}, v'.holder j = some t' → j ≠ i ∧ v.holder j = some t' := by
    intro j t' held
    rw [holder, Function.update_apply] at held
    split at held
    · cases held
    · next other => exact ⟨other, held⟩
  have holder_other : ∀ {j}, j ≠ i → v'.holder j = v.holder j := fun other => by
    rw [holder, Function.update_of_ne other]
  have state_other : ∀ {j}, j ≠ i → v'.state j = v.state j := fun other => by
    rw [state, Function.update_of_ne other]
  refine ⟨fun j => ?_, fun t' j has => ?_, fun t' id has => ?_, fun j t' held => ?_, fun t' => ?_⟩
  · by_cases same : j = i
    · simp [state, holder, same]
    · rw [state_other same, holder_other same]
      exact inv.free j
  · by_cases same : t' = t
    · subst same
      rw [takes] at has
      cases has
    · rw [move.role_of_ne same] at has
      have other : j ≠ i := by
        rintro rfl
        exact (alone t' same).1 has
      rw [holder_other other]
      exact inv.taking t' j has
  · by_cases same : t' = t
    · subst same
      rw [holds] at has
      cases has
    · rw [move.role_of_ne same] at has
      obtain ⟨held, new⟩ := inv.holds t' id has
      rw [holder_other ((alone t' same).2 id has)]
      exact ⟨held, newest new⟩
  · obtain ⟨other, held⟩ := held_of held
    rcases inv.newest j t' held with window | ⟨id, own, slot, new⟩
    · left
      have ne : t' ≠ t := by
        rintro rfl
        rw [before] at window
        cases window
      rwa [move.role_of_ne ne]
    · exact .inr ⟨id, move.log_subset own, slot, newest new⟩
  · by_cases same : t' = t
    · subst same
      exact role
    · rw [move.role_of_ne same]
      refine roleHolds_frame (inv.roles t') (fun id own => .inl (state_other ?_))
        (fun j held => (held_of held).2) fun id has secret => ?_
      · rcases own with holds | held
        · exact (alone t' same).2 id holds
        · exact (held_of held).1
      · exact secret_frame ids move few (Ne.symm same) (ids.issued_of_role has) secret

/-- The CAS of an acquisition. -/
theorem take (inv : Holders g₀ v) (ids : Ids S g₀ v) {i : UInt32} {l : Option Label}
    (move : Move S v t l ((v.setState i layoutRespAcquired (some t)).become t (.taking i .own)))
    (few : v.Few) (free : v.state i = layoutRespFree) (before : (v.role t).takes = none) :
    Holders g₀ ((v.setState i layoutRespAcquired (some t)).become t (.taking i .own)) := by
  have unheld := (inv.free i).mp free
  have holder_other : ∀ {j}, j ≠ i →
      (v.setState i layoutRespAcquired (some t)).holder j = v.holder j := fun other => by
    simp [View.setState, other]
  have state_other : ∀ {j}, j ≠ i →
      (v.setState i layoutRespAcquired (some t)).state j = v.state j := fun other => by
    simp [View.setState, other]
  refine ⟨fun j => ?_, fun t' j has => ?_, fun t' id has => ?_, fun j t' held => ?_, fun t' => ?_⟩
  · by_cases same : j = i
    · refine iff_of_false ?_ ?_ <;> simp [View.become, View.setState, same, layoutRespFree,
        layoutRespAcquired]
    · exact (state_other same ▸ holder_other same ▸ inv.free j)
  · by_cases same : t' = t
    · subst same
      rw [View.become_role] at has
      obtain rfl := Option.some.inj has
      simp [View.become, View.setState]
    · rw [View.become_role_of_ne _ _ same] at has
      have held := inv.taking t' j has
      have other : j ≠ i := by
        rintro rfl
        rw [unheld] at held
        cases held
      exact (holder_other other).trans held
  · by_cases same : t' = t
    · subst same
      rw [View.become_role] at has
      cases has
    · rw [View.become_role_of_ne _ _ same] at has
      obtain ⟨held, new⟩ := inv.holds t' id has
      have other : idSlot id ≠ i := by
        rintro rfl
        rw [unheld] at held
        cases held
      exact ⟨(holder_other other).trans held, new⟩
  · by_cases same : j = i
    · subst same
      obtain rfl : t = t' := by simpa [View.become, View.setState] using held
      exact .inl (by rw [View.become_role]; rfl)
    · rcases inv.newest j t' ((holder_other same).symm.trans held) with window | new
      · left
        have ne : t' ≠ t := by
          rintro rfl
          rw [before] at window
          cases window
        rwa [View.become_role_of_ne _ _ ne]
      · exact .inr new
  · by_cases same : t' = t
    · subst same
      rw [View.become_role]
      trivial
    · rw [View.become_role_of_ne _ _ same]
      have own_other : ∀ {j}, ((v.setState i layoutRespAcquired (some t)).become t
          (.taking i .own)).holder j = some t' → j ≠ i := by
        rintro j held rfl
        have : t = t' := by simpa [View.become, View.setState] using held
        exact same this.symm
      refine roleHolds_frame (inv.roles t') (fun id own => .inl (state_other ?_))
        (fun j held => (holder_other (own_other held)).symm.trans held) fun id has secret => ?_
      · rcases own with holds | held
        · rintro rfl
          have held := (inv.holds t' id holds).1
          rw [unheld] at held
          cases held
        · exact own_other held
      · exact secret_frame ids move few (Ne.symm same) (ids.issued_of_role has) secret

/-- The last increment of an acquisition gives out the newest id. -/
theorem inc (inv : Holders g₀ v) (ids : Ids S g₀ v) {i : UInt32} {p : Taking}
    (role : v.role t = .taking i p) (last : p = .inc ∧ v.gen i + 1 ≠ 0 ∨ p = .again)
    (few : (((v.bump i).note (.acquired t (packId (v.gen i + 1) i))).become t
      (.unsent (packId (v.gen i + 1) i))).Few) :
    Holders g₀ (((v.bump i).note (.acquired t (packId (v.gen i + 1) i))).become t
      (.unsent (packId (v.gen i + 1) i))) := by
  have move := Move.inc (S := S) role last
  have bumps : (v.bump i).bumps i = v.bumps i + 1 := by simp [View.bump]
  have few' : (v.bump i).Few := few
  have aged := (ids.of_acquired few' role last bumps).2.2
  have held : v.holder i = some t := inv.taking t i (congrArg Role.takes role)
  have new : (((v.bump i).note (.acquired t (packId (v.gen i + 1) i))).become t
      (.unsent (packId (v.gen i + 1) i))).Newest g₀ (packId (v.gen i + 1) i) := by
    rintro id ⟨t', given⟩ slot
    rw [idSlot_packId] at slot
    rcases move.acquired_of given with old | ⟨-, j, _, role', -, rfl, -⟩
    · have young := ids.young id ⟨t', old⟩
      rw [slot] at young
      omega
    · rw [role] at role'
      obtain ⟨rfl, -⟩ := Role.taking.inj role'
      exact le_refl _
  -- an id of another slot is no newer than before
  have newest : ∀ {id}, idSlot id ≠ i → v.Newest g₀ id → (((v.bump i).note
      (.acquired t (packId (v.gen i + 1) i))).become t
      (.unsent (packId (v.gen i + 1) i))).Newest g₀ id := by
    rintro id other before id' ⟨t', given⟩ slot
    rcases move.acquired_of given with old | ⟨-, j, _, role', -, rfl, -⟩
    · exact before id' ⟨t', old⟩ slot
    · rw [role] at role'
      obtain ⟨rfl, -⟩ := Role.taking.inj role'
      rw [idSlot_packId] at slot
      exact absurd slot.symm other
  refine ⟨inv.free, fun t' j has => ?_, fun t' id has => ?_, fun j t' held' => ?_, fun t' => ?_⟩
  · have ne : t' ≠ t := by
      rintro rfl
      rw [View.become_role] at has
      cases has
    rw [View.become_role_of_ne _ _ ne] at has
    exact inv.taking t' j has
  · by_cases same : t' = t
    · subst same
      rw [View.become_role] at has
      obtain rfl := Option.some.inj has
      refine ⟨?_, new⟩
      rw [idSlot_packId]
      exact held
    · rw [View.become_role_of_ne _ _ same] at has
      obtain ⟨held', before⟩ := inv.holds t' id has
      refine ⟨held', newest ?_ before⟩
      rintro rfl
      rw [held] at held'
      exact same (Option.some.inj held').symm
  · by_cases here : j = i
    · subst here
      obtain rfl : t = t' := Option.some.inj (held.symm.trans held')
      exact .inr ⟨_, List.mem_cons_self, idSlot_packId _ _, new⟩
    · rcases inv.newest j t' held' with window | ⟨id, own, slot, before⟩
      · left
        have ne : t' ≠ t := by
          rintro rfl
          rw [role] at window
          exact here (Option.some.inj window).symm
        rwa [View.become_role_of_ne _ _ ne]
      · exact .inr ⟨id, List.mem_cons_of_mem _ own, slot, newest (slot ▸ here) before⟩
  · by_cases same : t' = t
    · subst same
      rw [View.become_role]
      -- nobody has an id that was not given out
      refine ⟨fun queued => ?_, fun t₁ ne has => ?_⟩
      · exact ids.not_issued few' role last bumps (ids.pending _ queued)
      · rw [View.become_role_of_ne _ _ ne] at has
        exact ids.not_issued few' role last bumps (ids.issued_of_role has)
    · rw [View.become_role_of_ne _ _ same]
      exact roleHolds_frame (inv.roles t') (fun id _ => .inl rfl) (fun j held => held)
        fun id has secret => secret_frame ids move few (Ne.symm same) (ids.issued_of_role has)
          secret

/-- Nobody but its holder is at a slot. -/
theorem alone_of_holds (inv : Holders g₀ v) {i : UInt32} (held : v.holder i = some t) (t' : Fin n)
    (other : t' ≠ t) :
    (v.role t').takes ≠ some i ∧ ∀ id, (v.role t').holds = some id → idSlot id ≠ i := by
  refine ⟨fun takes => other ?_, ?_⟩
  · exact Option.some.inj ((inv.taking t' i takes).symm.trans held)
  · rintro id holds rfl
    exact other (Option.some.inj ((inv.holds t' id holds).1.symm.trans held))

/-- Whoever cancels a current id, nobody is in the middle of its slot. -/
theorem alone_of_cancel (inv : Holders g₀ v) (ids : Ids S g₀ v) (few : v.Few) {id : UInt64}
    (current : v.Current id) (has : (v.role t).id = some id)
    (acquired : v.state (idSlot id) = layoutRespAcquired) (t' : Fin n) (other : t' ≠ t) :
    (v.role t').takes ≠ some (idSlot id) ∧
      ∀ id', (v.role t').holds = some id' → idSlot id' ≠ idSlot id := by
  refine ⟨fun takes => current.2.2 ⟨t', takes⟩, fun id' holds slot => ?_⟩
  have unready : v.state (idSlot id') ≠ layoutRespReady := by
    rw [slot, acquired]
    decide
  have roles := inv.roles t'
  -- a reader's slot is READY, and what is left is an id that was never sent
  have secret : (v.role t').id = some id' ∧ v.Secret t' id' := by
    cases role : v.role t' with
    | unsent id₁ =>
      rw [role] at holds roles
      obtain rfl := Option.some.inj holds
      exact ⟨rfl, roles⟩
    | reading id₁ p =>
      rw [role] at holds roles
      obtain rfl := Option.some.inj holds
      exact absurd roles unready
    | releasing id₁ p next =>
      rw [role] at holds roles
      obtain rfl := Option.some.inj holds
      exact ⟨rfl, roles.resolve_left unready⟩
    | _ =>
      rw [role] at holds
      cases holds
  obtain rfl : id' = id := eq_of_newest (ids.issued_of_role secret.1) (ids.issued_of_role has)
    (inv.holds t' id' holds).2 (newest_of_current ids few current) slot
  exact secret.2.2 t other.symm has

/-- A client whose id is current holds its slot for good reasons. -/
theorem hold_of_current (inv : Holders g₀ v) (ids : Ids S g₀ v) (few : v.Few) {id : UInt64}
    (current : v.Current id) (own : .acquired t id ∈ v.log) :
    v.holder (idSlot id) = some t ∧ v.Newest g₀ id :=
  ⟨inv.of_current ids few current own, newest_of_current ids few current⟩

/-- A timely move keeps the holders. -/
theorem step (inv : Holders g₀ v) (ids : Ids S g₀ v) (healthy : v.Healthy) (few : v'.Few)
    (move : Move S v t label v') (timely : ∀ l, label = some l → Timely v l) :
    Holders g₀ v' := by
  have roles := ids.roles t
  have holding := inv.roles t
  have kept := move
  cases move with
  | take role bound free =>
    rcases role with role | role
    · exact inv.take ids kept healthy.few free (congrArg Role.takes role)
    · exact absurd role (ids.calm healthy.alive)
  | inc role last => exact inv.inc ids role last few
  | condemn role bound taken dead =>
    rw [healthy.alive] at dead
    cases dead
  | clear role => exact absurd role (ids.calm healthy.alive)
  | free role => exact absurd role (ids.calm healthy.alive)
  | recoverMiss role => exact absurd role (ids.calm healthy.alive)
  | own role | incZero role =>
    exact inv.keep ids kept few (View.become_role _ _ _) (fun _ => .inl rfl) rfl
      (fun _ _ h => h) (congrArg Role.takes role).symm (by intros; contradiction) trivial
  | hint role =>
    rw [role] at holding
    refine inv.keep ids kept few (View.become_role _ _ _) (fun _ => .inl rfl) rfl (fun _ _ h => h)
      (congrArg Role.takes role).symm (fun id has => .inl ((congrArg Role.holds role).trans has)) ?_
    refine ⟨holding.1, fun t' other => ?_⟩
    rw [View.become_role_of_ne _ _ other]
    exact holding.2 t' other
  | send role =>
    refine inv.keep ids kept few (View.become_role _ _ _) (fun _ => .inl rfl) rfl (fun _ _ h => h)
      ?_ ?_ ?_
    · rw [role]
      split <;> rfl
    · split <;> exact (by intros; contradiction)
    · split <;> trivial
  | drop role =>
    rw [role] at holding
    refine inv.keep ids kept few (View.become_role _ _ _) (fun _ => .inl rfl) rfl (fun _ _ h => h)
      (congrArg Role.takes role).symm (fun id has => .inl ((congrArg Role.holds role).trans has)) ?_
    refine .inr ⟨holding.1, fun t' other => ?_⟩
    rw [View.become_role_of_ne _ _ other]
    exact holding.2 t' other
  | releaseOwner role =>
    rw [role] at holding
    refine inv.keep ids kept few (View.become_role _ _ _) (fun _ => .inl rfl) rfl
      (fun _ _ h => by simpa [View.become, View.note, View.setOwner] using h)
      (congrArg Role.takes role).symm (fun id has => .inl ((congrArg Role.holds role).trans has)) ?_
    refine holding.imp (fun h => h) fun secret => ⟨secret.1, fun t' other => ?_⟩
    rw [View.become_role_of_ne _ _ other]
    exact secret.2 t' other
  | releaseState role =>
    rw [role] at roles
    have held := (inv.holds t _ (congrArg Role.holds role)).1
    refine inv.freed ids kept few (View.become_role _ _ _) rfl rfl (fun _ _ h => h)
      (inv.alone_of_holds held) (congrArg Role.takes role) ?_ ?_ ?_
    all_goals rcases roles.2 with rfl | ⟨bytes, rfl⟩ | rfl <;> first | rfl | trivial
  | look role ready =>
    exact inv.keep ids kept few (View.become_role _ _ _) (fun _ => .inl rfl) rfl (fun _ _ h => h)
      (congrArg Role.takes role).symm (by rintro _ ⟨⟩) fun _ => ready
  | @read id role =>
    have current : v.Current id := timely _ rfl
    rcases role with ⟨role, ready⟩ | ⟨role, -⟩
    · rw [role] at roles
      refine inv.keep ids kept few (View.become_role _ _ _) (fun _ => .inl rfl) rfl
        (fun _ _ h => h) (congrArg Role.takes role).symm (fun id' has => .inr ?_) ready
      obtain rfl := Option.some.inj has
      exact inv.hold_of_current ids healthy.few current roles
    · rw [role] at roles holding
      have held := inv.hold_of_current ids healthy.few current roles
      refine inv.keep ids kept few (View.become_role _ _ _) (fun _ => .inl rfl) rfl
        (fun _ _ h => h) (congrArg Role.takes role).symm (fun id' has => .inr ?_) (holding held.1)
      obtain rfl := Option.some.inj has
      exact held
  | readLen role | readByte role =>
    rw [role] at holding
    refine inv.keep ids kept few (View.become_role _ _ _) (fun _ => .inl rfl) rfl
      (fun _ _ h => h) ?_ (fun id has => .inl ?_) ?_
    · rw [role]
      unfold Role.readNext
      split <;> rfl
    · rw [role]
      unfold Role.readNext at has
      split at has <;> exact has
    · unfold Role.readNext
      split
      · exact holding
      · exact .inl holding
  | readLong role =>
    rw [role] at holding
    exact inv.keep ids kept few (View.become_role _ _ _) (fun _ => .inl rfl) rfl (fun _ _ h => h)
      (congrArg Role.takes role).symm (fun id has => .inl ((congrArg Role.holds role).trans has))
      (.inl holding)
  | giveUp role =>
    rcases role with role | role <;>
      exact inv.keep ids kept few (View.become_role _ _ _) (fun _ => .inl rfl) rfl
        (fun _ _ h => h) (congrArg Role.takes role).symm (by intros; contradiction) trivial
  | cancelMiss role | casMiss role | cancelBump role =>
    rw [role] at roles
    refine inv.keep ids kept few (View.become_role _ _ _) (fun _ => .inl rfl) rfl (fun _ _ h => h)
      ?_ ?_ ?_
    all_goals rcases roles.2 with rfl | ⟨rfl, -⟩ <;>
      first | exact (congrArg Role.takes role).symm | trivial | (intros; contradiction)
  | casHit role acquired =>
    exact inv.freed ids kept few (View.become_role _ _ _) rfl rfl
      (fun _ _ h => by simpa [View.become, View.note, View.setState] using h)
      (inv.alone_of_cancel ids healthy.few (timely _ rfl) (congrArg Role.id role) acquired)
      (congrArg Role.takes role) rfl rfl trivial
  | @drainFree id role ready =>
    rw [role] at roles
    refine inv.keep ids kept few (View.become_role _ _ _) (fun _ => .inl rfl) rfl (fun _ _ h => h)
      (congrArg Role.takes role).symm (fun id' has => .inr ?_) (.inl ready)
    obtain rfl := Option.some.inj has
    exact inv.hold_of_current ids healthy.few (timely _ rfl) roles
  | reply role | refuse role | answer role =>
    exact inv.keep ids kept few (View.become_role _ _ _) (fun _ => .inl rfl) rfl
      (fun _ _ h => by simpa [View.become, View.note] using h) (congrArg Role.takes role).symm
      (by rintro _ ⟨⟩) trivial
  | @publish id response role acquired =>
    refine inv.keep ids kept few (View.become_role _ _ _) (fun i => ?_) rfl (fun _ _ h => h)
      (congrArg Role.takes role).symm (by rintro _ ⟨⟩) trivial
    by_cases same : i = idSlot id
    · subst same
      refine .inr ⟨?_, by simp [View.become]⟩
      rw [acquired]
      decide
    · exact .inl (by simp [View.become, same])
  | cancelHit role | cancelOwner role | drainMiss role | drainHit role | drainEnd role | recv role
  | fail role | writeState role | writeGen role | writeStop role | writeByte role
  | writeLen role =>
    exact inv.keep ids kept few (View.become_role _ _ _) (fun _ => .inl rfl) rfl (fun _ _ h => h)
      (congrArg Role.takes role).symm (by rintro _ ⟨⟩) trivial

end Holders

theorem Start.holders {c : Cfg n} (start : Start S c) : Holders c.gen c.view := by
  refine ⟨fun i => iff_of_true (start.free i) (start.holder i), fun t i has => ?_,
    fun t id has => ?_, fun i t held => ?_, fun t => ?_⟩
  · rw [start.role t] at has
    cases has
  · rw [start.role t] at has
    cases has
  · rw [show c.view.holder i = none from start.holder i] at held
    cases held
  · rw [start.role t]
    trivial

end ReqRep
