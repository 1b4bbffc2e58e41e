import ReqRep.Machine.Exposed

/-!
# One goroutine alone

What a goroutine knows of the slot it is at when nobody else acts: the slot that it
took is still taken, the state that it has loaded is still there, and behind its
owner store the owner is still 0.
-/

namespace ReqRep

variable {n : Nat} {S : Setup n} {v v' : View n} {c c' : Cfg n} {t t' : Fin n}
  {label : Option Label} {i : UInt32} {id : UInt64}

/-- A slot of the layout that is taken. -/
def View.InUse (S : Setup n) (v : View n) (i : UInt32) : Prop :=
  i < S.shm.respSlots ∧ v.state i ≠ layoutRespFree

/-- How a goroutine goes on behind the release or the cancellation of a request. -/
def Role.Follows (s : Shm) (id : UInt64) (r : Role) : Prop :=
  r = .idle ∨ (∃ bytes, r = .answering id bytes) ∨
    (idSlot id < s.respSlots ∧ (r = .leaving id ∨ r = .givingUp id))

/-- What a goroutine that acts alone knows. -/
def Role.Knows (S : Setup n) (v : View n) : Role → Prop
  | .taking i _ => v.InUse S i
  | .recovering i state .clear => v.InUse S i ∧ v.state i = state
  | .recovering i state .free => v.InUse S i ∧ v.state i = state ∧ v.owner i = 0
  | .unsent id | .waiting id | .sawReady id | .reading id _ => v.InUse S (idSlot id)
  | .releasing id p next =>
    v.InUse S (idSlot id) ∧ (p = .state → v.owner (idSlot id) = 0) ∧ next.Follows S.shm id
  | .cancelling id p next =>
    (p = .owner → v.state (idSlot id) = layoutRespFree) ∧ next.Follows S.shm id
  | .leaving id | .draining id => idSlot id < S.shm.respSlots
  | _ => True

theorem Role.Follows.knows {r : Role} (follows : r.Follows S.shm id) : r.Knows S v := by
  rcases follows with rfl | ⟨bytes, rfl⟩ | ⟨bound, rfl | rfl⟩
  · trivial
  · trivial
  · exact bound
  · exact ⟨by rintro ⟨⟩, .inr (.inr ⟨bound, .inl rfl⟩)⟩

theorem follows_idle : Role.Follows S.shm id .idle := .inl rfl

theorem follows_answering (bytes : List UInt8) : (Role.answering id bytes).Follows S.shm id :=
  .inr (.inl ⟨bytes, rfl⟩)

theorem View.InUse.givingUp (used : v.InUse S (idSlot id)) :
    (Role.givingUp id).Follows S.shm id := .inr (.inr ⟨used.1, .inr rfl⟩)

theorem View.InUse.readNext (used : v.InUse S (idSlot id)) (length : Nat) (result : List UInt8) :
    (Role.readNext id length result).Knows S v := by
  unfold Role.readNext
  split
  · exact used
  · exact ⟨used, by rintro ⟨⟩, follows_answering result⟩

/-! ## Its moves -/

/-- Its moves keep what it knows; the second pass needs a state that is still there. -/
theorem knows_of_move (move : Move S v t label v') (known : (v.role t).Knows S v)
    (looked : ∀ i pid state, label = some (.condemn i pid) →
      v'.role t = .recovering i state .clear → v.state i = state) :
    (v'.role t).Knows S v' := by
  cases move with
  | @take i role bound free =>
    rw [View.become_role]
    refine ⟨bound, ?_⟩
    simp [View.become, View.setState, layoutRespAcquired, layoutRespFree]
  | @condemn i state pid role bound taken dead =>
    have same := looked i pid state rfl (View.become_role ..)
    rw [View.become_role]
    exact ⟨⟨bound, by rwa [← same] at taken⟩, same⟩
  | @clear i state role =>
    rw [role] at known
    rw [View.become_role]
    exact ⟨known.1, known.2, Function.update_self ..⟩
  | @inc i p role last =>
    rw [role] at known
    rw [View.become_role]
    show View.InUse S _ (idSlot _)
    rw [idSlot_packId]
    exact known
  | @send id role =>
    rw [role] at known
    rw [View.become_role]
    split
    · exact known
    · trivial
  | @drop id role =>
    rw [role] at known
    rw [View.become_role]
    exact ⟨known, by rintro ⟨⟩, follows_idle⟩
  | @releaseOwner id next role =>
    rw [role] at known
    rw [View.become_role]
    exact ⟨known.1, fun _ => Function.update_self .., known.2.2⟩
  | @releaseState id next role =>
    rw [role] at known
    rw [View.become_role]
    exact known.2.2.knows
  | @read id role =>
    rw [View.become_role]
    rcases role with ⟨role, -⟩ | ⟨role, -⟩ <;> (rw [role] at known; exact known)
  | readLen role | readByte role =>
    rw [role] at known
    rw [View.become_role]
    exact View.InUse.readNext (v := v) known _ _
  | @readLong id role =>
    rw [role] at known
    rw [View.become_role]
    exact ⟨known, by rintro ⟨⟩, View.InUse.givingUp (v := v) known⟩
  | @giveUp id role =>
    rw [View.become_role]
    rcases role with role | role <;>
      (rw [role] at known; exact (View.InUse.givingUp (v := v) known).knows)
  | cancelMiss role | casMiss role | cancelBump role =>
    rw [role] at known
    rw [View.become_role]
    exact known.2.knows
  | cancelHit role | cancelOwner role =>
    rw [role] at known
    rw [View.become_role]
    exact ⟨by rintro ⟨⟩, known.2⟩
  | @casHit id next role acquired =>
    rw [role] at known
    rw [View.become_role]
    exact ⟨fun _ => Function.update_self .., known.2⟩
  | @drainFree id role ready =>
    rw [role] at known
    rw [View.become_role]
    refine ⟨⟨known, ?_⟩, by rintro ⟨⟩, follows_idle⟩
    show v.state (idSlot id) ≠ layoutRespFree
    rw [ready]
    decide
  | @fail id role =>
    rw [View.become_role]
    exact ⟨by rintro ⟨⟩, follows_idle⟩
  | own role | incZero role | hint role | look role | drainHit role =>
    rw [role] at known
    rw [View.become_role]
    exact known
  | free role | recoverMiss role | answer role | drainMiss role | drainEnd role | recv role
  | reply role | refuse role | writeState role | writeGen role | writeStop role | writeByte role
  | writeLen role | publish role =>
    rw [View.become_role]
    trivial

/-! ## Its steps -/

/-- The state that the second pass has loaded is still there. -/
def Pc.Looked (state : UInt32 → UInt32) : Pc → Prop
  | .recOwner _ i loaded | .recAlive _ i loaded _ => state i = loaded
  | _ => True

theorem looked_of_resumable {pc : Pc} {state : UInt32 → UInt32} (resumable : pc.Resumable) :
    pc.Looked state := by
  cases pc <;> trivial

/-- Only goroutine `t` does something. -/
structure Solo (S : Setup n) (t : Fin n) (c : Cfg n) : Prop where
  base : Base S c
  nested : ∀ t', (c.thr t').pc.WellNested
  others : ∀ t', t' ≠ t → (c.thr t').pc = .idle
  looked : (c.thr t).pc.Looked c.state
  knows : (c.thr t).pc.role.Knows S c.view

/-- A step of the goroutine that is no operation leaves the view alone. -/
theorem step_view {act : Act n} (stepped : c.step S act = some c') (own : act.thread = some t) :
    (∃ ans, act = .run t ans) ∨ c'.view = c.view := by
  have setThread : ∀ th : Thread, th.pc.role = (c.thr t).pc.role →
      ({ c with thr := Function.update c.thr t th } : Cfg n).view = c.view := by
    intro th same
    rw [view_setThread, same]
    exact become_self c.view t
  unfold Cfg.step at stepped
  split at stepped
  · cases stepped
  cases act with
  | run t' ans =>
    obtain rfl : t' = t := Option.some.inj own
    exact .inl ⟨ans, rfl⟩
  | query t' req =>
    obtain rfl : t' = t := Option.some.inj own
    dsimp only at stepped
    split at stepped
    · next idle =>
      obtain rfl := Option.some.inj stepped
      refine .inr (setThread _ ?_)
      rw [idle]
      dsimp only
      split <;> rfl
    · cases stepped
  | serve t' =>
    obtain rfl : t' = t := Option.some.inj own
    dsimp only at stepped
    split at stepped
    · next idle =>
      obtain rfl := Option.some.inj stepped
      refine .inr (setThread _ ?_)
      rw [idle]
      rfl
    · cases stepped
  | cancelCtx t' | deadline t' =>
    obtain rfl : t' = t := Option.some.inj own
    obtain rfl := Option.some.inj stepped
    exact .inr (setThread _ rfl)
  | wakeup t' =>
    obtain rfl : t' = t := Option.some.inj own
    dsimp only at stepped
    split at stepped <;> cases stepped
    exact .inr (view_stutter rfl (role_awake _))
  | die pid => cases own

/-- The second pass looks at a slot without a store. -/
theorem looked_of_enters {ans : Answer n} (ran : c.run S t ans = some c')
    (enters : Enters c (c.thr t).pc (c'.thr t).pc) (looked : (c.thr t).pc.Looked c.state) :
    (c'.thr t).pc.Looked c'.state := by
  generalize here : (c.thr t).pc = pc, there : (c'.thr t).pc = pc' at enters looked ⊢
  cases enters with
  | look a i =>
    simp only [Cfg.run, here] at ran
    split at ran <;> cases ran <;> rfl
  | ask a i state pid =>
    simp only [Cfg.run, here] at ran
    split at ran <;> cases ran <;> exact looked
  | _ => trivial

/-- The verdict that an owner is dead is on the state that the pass has loaded. -/
theorem condemned_looked {ans : Answer n} {pid state : UInt32} (ran : c.run S t ans = some c')
    (looked : (c.thr t).pc.Looked c.state)
    (condemns : c.labelAt S ans (c.thr t).pc = some (.condemn i pid))
    (recovers : c'.view.role t = .recovering i state .clear) : c.view.state i = state := by
  generalize here : (c.thr t).pc = pc at looked condemns
  cases pc with
  | recAlive a j loaded owner =>
    simp only [Cfg.run, here] at ran
    simp only [Cfg.labelAt] at condemns
    split at ran
    · next alive =>
      rw [if_pos alive] at condemns
      cases condemns
    · next other =>
      rw [if_neg other] at condemns
      obtain ⟨rfl, rfl⟩ := Label.condemn.inj (Option.some.inj condemns)
      split at ran <;> cases ran
      rw [view_goto, View.become_role] at recovers
      obtain ⟨-, rfl, -⟩ := Role.recovering.inj recovers
      exact looked
  | _ =>
    simp only [Cfg.labelAt] at condemns
    first
      | cases condemns
      | (split at condemns <;> cases condemns)

namespace Solo

theorem start (base : Base S c) (idle : ∀ t, (c.thr t).pc = .idle) (t : Fin n) : Solo S t c where
  base := base
  nested t' := by
    rw [idle t']
    trivial
  others t' _ := idle t'
  looked := by
    rw [idle t]
    trivial
  knows := by
    rw [idle t]
    trivial

/-- A step of the goroutine. -/
theorem step (queueOk : S.shm.QueueOk) (solo : Solo S t c) {act : Act n}
    (own : act.thread = some t) (stepped : c.step S act = some c') : Solo S t c' where
  base := (step_simulated queueOk solo.base stepped).1
  nested := step_wellNested stepped solo.nested
  others t' other := by
    have foreign : act.thread ≠ some t' := by
      rw [own]
      rintro ⟨⟩
      exact other rfl
    rcases step_thr_of_ne stepped foreign with same | ⟨⟨l, asleep⟩, -⟩
    · rw [same]
      exact solo.others t' other
    · rw [solo.others t' other] at asleep
      cases asleep
  looked := by
    by_cases runs : ∃ ans, act = .run t ans
    · obtain ⟨ans, rfl⟩ := runs
      have ran := (step_run stepped).2
      rcases run_enters ran (solo.nested t) with resumable | enters
      · exact looked_of_resumable resumable
      · exact looked_of_enters ran enters solo.looked
    · have view := (step_view stepped own).resolve_left runs
      rcases (step_resumable stepped own).resolve_left runs with same | resumable
      · rw [same, show c'.state = c.state from congrArg View.state view]
        exact solo.looked
      · exact looked_of_resumable resumable
  knows := by
    have unseen : c'.view = c.view → (c'.thr t).pc.role.Knows S c'.view := by
      intro view
      rw [show (c'.thr t).pc.role = (c.thr t).pc.role from congrFun (congrArg View.role view) t,
        view]
      exact solo.knows
    rcases step_view stepped own with ⟨ans, rfl⟩ | view
    · have ran := (step_run stepped).2
      rcases (run_simulated queueOk solo.base ran).move with ⟨-, view⟩ | move
      · exact unseen view
      · exact knows_of_move move solo.knows fun i pid state => condemned_looked ran solo.looked
    · exact unseen view

theorem die (solo : Solo S t c) (pid : UInt32) :
    Solo S t { c with dead := Function.update c.dead pid true } where
  base := ⟨solo.base.queue, solo.base.short, solo.base.bounded⟩
  nested := solo.nested
  others := solo.others
  looked := solo.looked
  knows := by
    show (c.thr t).pc.role.Knows S { c.view with dead := Function.update c.dead pid true }
    exact solo.knows

/-- The others die, or do nothing. -/
theorem advance (queueOk : S.shm.QueueOk) (solo : Solo S t c) {act : Act n}
    (own : ∀ t', act.thread = some t' → t' = t) (stepped : c.step S act = some c') :
    Solo S t c' := by
  cases acts : act.thread with
  | some t' =>
    obtain rfl := own t' acts
    exact solo.step queueOk acts stepped
  | none =>
    cases act with
    | die pid =>
      cases stepped
      exact solo.die pid
    | _ => cases acts

/-- A run of the goroutine, with any deaths in between. -/
theorem reaches (queueOk : S.shm.QueueOk) (solo : Solo S t c) {acts : List (Act n)}
    (own : ∀ act ∈ acts, ∀ t', act.thread = some t' → t' = t)
    (ran : c.steps S acts = some c') : Solo S t c' := by
  induction acts generalizing c with
  | nil =>
    cases ran
    exact solo
  | cons act acts ih =>
    obtain ⟨c₁, stepped, rest⟩ := Option.bind_eq_some_iff.mp ran
    exact ih (solo.advance queueOk (own act List.mem_cons_self) stepped)
      (fun act' later => own act' (List.mem_cons_of_mem _ later)) rest

end Solo

end ReqRep
