import ReqRep.Shm.Memory

/-!
# The guard of stale recovery

`mutexLock` and `recvWait` call `recoverStaleMutex` after two timeouts on the same
dead holder. What each iteration of the two loops sees is an input here: the
answers of the futex, of the mutex word and of `pidAlive`, in any order.
-/

namespace ReqRep

/-! ## The counters -/

/-- `consecutiveTimeouts` and `lastObservedVal` of `mutexLock`, and their copies
`recvConsecutiveTimeouts` and `recvLastObservedVal` of `recvWait`. -/
structure Timeouts where
  consecutiveTimeouts : Nat
  lastObservedVal : UInt32
  deriving DecidableEq, Repr

/-- Both are 0 before the loop. -/
def Timeouts.start : Timeouts := ⟨0, 0⟩

/-- What follows ETIMEDOUT once `val` is loaded; `alive` is the answer of `pidAlive`
for its PID. The second component is the argument of `recoverStaleMutex`, where
it is called. -/
def Timeouts.check (t : Timeouts) (val : UInt32) (alive : Bool) : Timeouts × Option UInt32 :=
  if val ≥ layoutMutexWriterBit then
    if !alive then
      let t := if val = t.lastObservedVal then
          { t with consecutiveTimeouts := t.consecutiveTimeouts + 1 }
        else ⟨1, val⟩
      if t.consecutiveTimeouts ≥ 2 then
        ({ t with consecutiveTimeouts := 0 }, some val)
      else (t, none)
    else (⟨0, 0⟩, none)
  else (t, none)

/-- What one iteration sees of the mutex and its futex. -/
inductive Round where
  /-- The mutex was free, and `futexWait` was not called. -/
  | free
  /-- `futexWait` returned without ETIMEDOUT: woken, EAGAIN or EINTR. -/
  | woken
  | timedOut (val : UInt32) (alive : Bool)
  deriving DecidableEq, Repr

/-! ## The two loops -/

/-- What an iteration of `mutexLock` meets: whether a CAS of the spin loop succeeds,
the word before the wait, whether the wait times out, the word and the answer of
`pidAlive` after that, and whether the CAS after a wake-up succeeds. -/
structure LockIteration where
  spun : Bool
  cur : UInt32
  timedOut : Bool
  val : UInt32
  alive : Bool
  cas : Bool
  deriving DecidableEq, Repr

/-- The rounds of a `mutexLock`, each with the `recoverStaleMutex` it calls. -/
def mutexLockLoop (t : Timeouts) : List LockIteration → List (Round × Option UInt32)
  | [] => []
  | it :: its =>
    if it.spun then
      []
    else if it.cur ≠ 0 then
      if it.timedOut then
        let checked := t.check it.val it.alive
        (.timedOut it.val it.alive, checked.2) :: mutexLockLoop checked.1 its
      else
        (.woken, none) :: if it.cas then [] else mutexLockLoop t its
    else
      (.free, none) :: if it.cas then [] else mutexLockLoop t its

/-- What an iteration of `recvWait` meets: whether the `tryRecv` before the wait
receives, whether the context has ended, whether the wait times out, the word
and the answer of `pidAlive` after that, whether the context has ended now, and
whether the last `tryRecv` receives. -/
structure RecvIteration where
  receives : Bool
  ended : Bool
  timedOut : Bool
  val : UInt32
  alive : Bool
  endedAfter : Bool
  receivesAfter : Bool
  deriving DecidableEq, Repr

/-- The rounds of a `recvWait`, each with the `recoverStaleMutex` it calls. -/
def recvWaitLoop (t : Timeouts) : List RecvIteration → List (Round × Option UInt32)
  | [] => []
  | it :: its =>
    if it.receives then
      []
    else if it.ended then
      []
    else if it.timedOut then
      let checked := t.check it.val it.alive
      (.timedOut it.val it.alive, checked.2) ::
        if it.endedAfter then [] else if it.receivesAfter then [] else recvWaitLoop checked.1 its
    else
      (.woken, none) ::
        if it.endedAfter then [] else if it.receivesAfter then [] else recvWaitLoop t its

/-! ## The rule -/

/-- Each recovery is of a value with the writer bit, in a round that timed out on
its dead PID, right behind another such round. -/
def Confirmed (log : List (Round × Option UInt32)) : Prop :=
  ∀ before round v after, log = before ++ (round, some v) :: after →
    v ≥ layoutMutexWriterBit ∧ round = .timedOut v false ∧
      ∃ earlier call, before = earlier ++ [(.timedOut v false, call)]

/-- A round that the counters do not see. -/
def Round.Quiet : Round → Prop
  | .free | .woken => True
  | .timedOut val _ => val < layoutMutexWriterBit

instance (r : Round) : Decidable r.Quiet := by
  cases r <;> unfold Round.Quiet <;> infer_instance

/-- The counters after one round, and the recovery it calls for. -/
def Timeouts.observe (t : Timeouts) : Round → Timeouts × Option UInt32
  | .free | .woken => (t, none)
  | .timedOut val alive => t.check val alive

/-- The counters after some rounds, oldest first. -/
def Timeouts.after (t : Timeouts) : List Round → Timeouts
  | [] => t
  | r :: rs => (t.observe r).1.after rs

/-- Between the first timeout on the dead holder `v` and the next one that finds
it dead there are rounds that the counters do not see, and no others. -/
def Interrupted (rounds : List Round) : Prop :=
  ∃ before quiet v after, rounds = before ++ quiet ++ .timedOut v false :: after ∧
    Timeouts.start.after before = ⟨1, v⟩ ∧ quiet ≠ [] ∧ ∀ r ∈ quiet, r.Quiet

/-! ## What the counters do -/

variable {t : Timeouts} {r : Round} {rs : List Round} {v : UInt32}

/-- The rounds with the recoveries that the counters call for. -/
def Timeouts.account (t : Timeouts) : List Round → List (Round × Option UInt32)
  | [] => []
  | r :: rs => (r, (t.observe r).2) :: (t.observe r).1.account rs

theorem after_append (t : Timeouts) (rs rs' : List Round) :
    t.after (rs ++ rs') = (t.after rs).after rs' := by
  induction rs generalizing t with
  | nil => rfl
  | cons r rs ih => exact ih _

theorem account_append (t : Timeouts) (rs rs' : List Round) :
    t.account (rs ++ rs') = t.account rs ++ (t.after rs).account rs' := by
  induction rs generalizing t with
  | nil => rfl
  | cons r rs ih => exact congrArg _ (ih _)

theorem account_fst (t : Timeouts) (rs : List Round) : (t.account rs).map Prod.fst = rs := by
  induction rs generalizing t with
  | nil => rfl
  | cons r rs ih => exact congrArg _ (ih _)

/-- Both loops keep the same account. -/
theorem mutexLockLoop_account (t : Timeouts) (its : List LockIteration) :
    ∃ rs, mutexLockLoop t its = t.account rs := by
  induction its generalizing t with
  | nil => exact ⟨[], rfl⟩
  | cons it its ih =>
    have goes : ∀ r, (t.observe r).1 = t → (t.observe r).2 = none →
        ∃ rs, (r, none) :: (if it.cas then [] else mutexLockLoop t its) = t.account rs := by
      intro r same silent
      obtain ⟨rs, rest⟩ := ih t
      split
      · exact ⟨[r], by rw [Timeouts.account, silent]; rfl⟩
      · exact ⟨r :: rs, by rw [Timeouts.account, silent, same, rest]⟩
    unfold mutexLockLoop
    split
    · exact ⟨[], rfl⟩
    split
    · split
      · obtain ⟨rs, rest⟩ := ih (t.check it.val it.alive).1
        exact ⟨.timedOut it.val it.alive :: rs, congrArg _ rest⟩
      · exact goes .woken rfl rfl
    · exact goes .free rfl rfl

theorem recvWaitLoop_account (t : Timeouts) (its : List RecvIteration) :
    ∃ rs, recvWaitLoop t its = t.account rs := by
  induction its generalizing t with
  | nil => exact ⟨[], rfl⟩
  | cons it its ih =>
    have goes : ∀ r, ∃ rs, (r, (t.observe r).2) :: (if it.endedAfter then []
        else if it.receivesAfter then [] else recvWaitLoop (t.observe r).1 its) =
          t.account rs := by
      intro r
      obtain ⟨rs, rest⟩ := ih (t.observe r).1
      split
      · exact ⟨[r], rfl⟩
      split
      · exact ⟨[r], rfl⟩
      · exact ⟨r :: rs, congrArg _ rest⟩
    unfold recvWaitLoop
    split
    · exact ⟨[], rfl⟩
    split
    · exact ⟨[], rfl⟩
    split
    · exact goes (.timedOut it.val it.alive)
    · exact goes .woken

theorem observe_quiet (t : Timeouts) (quiet : r.Quiet) : t.observe r = (t, none) := by
  cases r with
  | free => rfl
  | woken => rfl
  | timedOut val alive =>
    rw [Timeouts.observe, Timeouts.check, if_neg (UInt32.not_le.mpr quiet)]

theorem after_quiet (t : Timeouts) (quiet : ∀ r ∈ rs, r.Quiet) : t.after rs = t := by
  induction rs with
  | nil => rfl
  | cons r rs ih =>
    rw [Timeouts.after, observe_quiet t (quiet r List.mem_cons_self)]
    exact ih fun r member => quiet r (List.mem_cons_of_mem _ member)

/-- A timeout that the counters see, by its verdict on the holder. -/
theorem observe_timedOut (t : Timeouts) {val : UInt32} {alive : Bool}
    (held : ¬ (Round.timedOut val alive).Quiet) :
    alive = true ∧ t.observe (.timedOut val alive) = (⟨0, 0⟩, none) ∨
    alive = false ∧ val = t.lastObservedVal ∧ 1 ≤ t.consecutiveTimeouts ∧
      t.observe (.timedOut val alive) = (⟨0, val⟩, some val) ∨
    alive = false ∧ ¬ (val = t.lastObservedVal ∧ 1 ≤ t.consecutiveTimeouts) ∧
      t.observe (.timedOut val alive) = (⟨1, val⟩, none) := by
  obtain ⟨consecutive, last⟩ := t
  have writer : val ≥ layoutMutexWriterBit := UInt32.not_lt.mp held
  cases alive with
  | true => exact .inl ⟨rfl, by simp [Timeouts.observe, Timeouts.check, writer]⟩
  | false =>
    refine .inr ?_
    by_cases same : val = last
    · subst same
      by_cases again : 1 ≤ consecutive
      · exact .inl ⟨rfl, rfl, again, by simp [Timeouts.observe, Timeouts.check, writer, again]⟩
      · obtain rfl : consecutive = 0 := by omega
        exact .inr ⟨rfl, by simp, by simp [Timeouts.observe, Timeouts.check, writer]⟩
    · exact .inr ⟨rfl, by simp [same], by simp [Timeouts.observe, Timeouts.check, writer, same]⟩

/-- One time-out in a row at most is ever on the counter. -/
theorem after_le_one (rs : List Round) : (Timeouts.start.after rs).consecutiveTimeouts ≤ 1 := by
  induction rs using List.reverseRecOn with
  | nil => exact Nat.zero_le 1
  | append_singleton rs r ih =>
    rw [after_append]
    change ((Timeouts.start.after rs).observe r).1.consecutiveTimeouts ≤ 1
    by_cases quiet : r.Quiet
    · rw [observe_quiet _ quiet]
      exact ih
    · cases r with
      | free => exact absurd trivial quiet
      | woken => exact absurd trivial quiet
      | timedOut val alive =>
        rcases observe_timedOut (Timeouts.start.after rs) quiet with
          ⟨-, same⟩ | ⟨-, -, -, same⟩ | ⟨-, -, same⟩ <;> rw [same] <;> simp

/-- A recovery needs one timeout on the same holder before it. -/
theorem observe_some_iff (few : t.consecutiveTimeouts ≤ 1) :
    (t.observe r).2 = some v ↔
      v ≥ layoutMutexWriterBit ∧ r = .timedOut v false ∧ t = ⟨1, v⟩ := by
  by_cases quiet : r.Quiet
  · rw [observe_quiet t quiet]
    refine ⟨nofun, ?_⟩
    rintro ⟨writer, rfl, -⟩
    exact absurd quiet (UInt32.not_lt.mpr writer)
  · cases r with
    | free => exact absurd trivial quiet
    | woken => exact absurd trivial quiet
    | timedOut val alive =>
      have writer : val ≥ layoutMutexWriterBit := UInt32.not_lt.mp quiet
      obtain ⟨consecutive, last⟩ := t
      rcases observe_timedOut ⟨consecutive, last⟩ quiet with
        ⟨rfl, same⟩ | ⟨rfl, here, again, same⟩ | ⟨rfl, other, same⟩ <;> rw [same]
      · simp
      · dsimp only at here again few
        subst here
        obtain rfl : consecutive = 1 := by omega
        constructor
        · intro called
          obtain rfl := Option.some.inj called
          exact ⟨writer, rfl, rfl⟩
        · rintro ⟨-, round, -⟩
          injection round with value
          rw [value]
      · refine ⟨nofun, ?_⟩
        rintro ⟨-, round, state⟩
        injection round with value
        injection state with count value'
        exact absurd ⟨value.trans value'.symm, Nat.le_of_eq count.symm⟩ other

/-- Where one timeout is pending, the counters have seen nothing since. -/
theorem pending_origin (pending : Timeouts.start.after rs = ⟨1, v⟩) :
    ∃ before quiet, rs = before ++ .timedOut v false :: quiet ∧ v ≥ layoutMutexWriterBit ∧
      ∀ r ∈ quiet, r.Quiet := by
  induction rs using List.reverseRecOn with
  | nil => cases pending
  | append_singleton rs r ih =>
    rw [after_append] at pending
    change ((Timeouts.start.after rs).observe r).1 = ⟨1, v⟩ at pending
    by_cases quiet : r.Quiet
    · rw [observe_quiet _ quiet] at pending
      obtain ⟨before, later, rfl, writer, all⟩ := ih pending
      refine ⟨before, later ++ [r], by simp, writer, fun r' member => ?_⟩
      rcases List.mem_append.mp member with old | new
      · exact all r' old
      · rwa [List.mem_singleton.mp new]
    · cases r with
      | free => exact absurd trivial quiet
      | woken => exact absurd trivial quiet
      | timedOut val alive =>
        rcases observe_timedOut (Timeouts.start.after rs) quiet with
          ⟨-, same⟩ | ⟨-, -, -, same⟩ | ⟨rfl, -, same⟩ <;> rw [same] at pending
        · cases pending
        · cases pending
        · injection pending with _ value
          subst value
          exact ⟨rs, [], rfl, UInt32.not_lt.mp quiet, nofun⟩

/-- A log of the counters splits where its rounds do. -/
theorem account_eq_append {before after : List (Round × Option UInt32)}
    (split : t.account rs = before ++ after) :
    ∃ rs₁ rs₂, rs = rs₁ ++ rs₂ ∧ before = t.account rs₁ ∧ (t.after rs₁).account rs₂ = after := by
  induction rs generalizing t before with
  | nil =>
    obtain ⟨rfl, rfl⟩ := List.append_eq_nil_iff.mp split.symm
    exact ⟨[], [], rfl, rfl, rfl⟩
  | cons r rs ih =>
    cases before with
    | nil => exact ⟨[], r :: rs, rfl, rfl, split⟩
    | cons head before =>
      obtain ⟨rfl, rest⟩ := List.cons.inj split
      obtain ⟨rs₁, rs₂, rfl, rfl, next⟩ := ih rest
      exact ⟨r :: rs₁, rs₂, rfl, rfl, next⟩

/-! ## The guard -/

/-- The account of the counters is confirmed exactly where nothing interrupts. -/
theorem account_confirmed_iff (rs : List Round) :
    Confirmed (Timeouts.start.account rs) ↔ ¬ Interrupted rs := by
  constructor
  · rintro confirmed ⟨before, quiet, v, after, rfl, pending, nonempty, all⟩
    obtain ⟨-, -, -, writer, -⟩ := pending_origin pending
    have still : Timeouts.start.after (before ++ quiet) = ⟨1, v⟩ := by
      rw [after_append, after_quiet _ all, pending]
    have called : ((⟨1, v⟩ : Timeouts).observe (.timedOut v false)).2 = some v :=
      (observe_some_iff (Nat.le_refl 1)).mpr ⟨writer, rfl, rfl⟩
    obtain ⟨-, -, earlier, call, last⟩ := confirmed (Timeouts.start.account (before ++ quiet))
      (.timedOut v false) v _ (by
        rw [account_append, still, Timeouts.account, called])
    -- the round right before the recovery is a quiet one
    have rounds := congrArg (List.map Prod.fst) last
    rw [account_fst, List.map_append, List.map_singleton] at rounds
    obtain ⟨quiet', r, rfl⟩ := List.eq_nil_or_concat quiet |>.resolve_left nonempty
    rw [List.concat_eq_append, ← List.append_assoc] at rounds
    obtain ⟨-, same⟩ := List.append_inj' rounds rfl
    obtain rfl : r = .timedOut v false := List.cons.inj same |>.1
    have := all (.timedOut v false) (by simp)
    exact absurd this (UInt32.not_lt.mpr writer)
  · rintro steady before round v after split
    obtain ⟨rs₁, rs₂, rfl, rfl, next⟩ := account_eq_append split
    cases rs₂ with
    | nil => cases next
    | cons r rs₂ =>
      injection next with head _
      injection head with same called
      subst same
      obtain ⟨writer, rfl, pending⟩ := (observe_some_iff (after_le_one rs₁)).mp called
      obtain ⟨earlier, quiet, rfl, -, all⟩ := pending_origin pending
      obtain rfl : quiet = [] := by
        by_contra nonempty
        refine steady ⟨earlier ++ [.timedOut v false], quiet, v, rs₂, by simp, ?_, nonempty, all⟩
        have shorter := after_quiet (Timeouts.start.after (earlier ++ [.timedOut v false])) all
        rw [← shorter, ← after_append]
        simpa using pending
      exact ⟨writer, rfl, Timeouts.start.account earlier,
        ((Timeouts.start.after earlier).observe (.timedOut v false)).2, account_append _ _ _⟩

/-- Stale recovery needs two timeouts in a row on the same dead holder, in a run of
either loop, exactly where no round that the counters do not see comes between a
first timeout on a dead holder and the next one that finds it dead. -/
theorem stale_recovery_confirmed_iff (its : List LockIteration) (its' : List RecvIteration) :
    (Confirmed (mutexLockLoop .start its) ↔
      ¬ Interrupted ((mutexLockLoop .start its).map Prod.fst)) ∧
    (Confirmed (recvWaitLoop .start its') ↔
      ¬ Interrupted ((recvWaitLoop .start its').map Prod.fst)) := by
  obtain ⟨rs, locks⟩ := mutexLockLoop_account .start its
  obtain ⟨rs', receives⟩ := recvWaitLoop_account .start its'
  rw [locks, receives, account_fst, account_fst]
  exact ⟨account_confirmed_iff rs, account_confirmed_iff rs'⟩

/-- Two timeouts on process 5 count as consecutive though the locker was woken
between them, or found the mutex free. -/
theorem woken_locker_recovers :
    mutexLockLoop .start [⟨false, 0x80000005, true, 0x80000005, false, false⟩,
        ⟨false, 0x80000005, false, 0, true, false⟩,
        ⟨false, 0x80000005, true, 0x80000005, false, false⟩] =
      [(.timedOut 0x80000005 false, none), (.woken, none),
        (.timedOut 0x80000005 false, some 0x80000005)] ∧
    mutexLockLoop .start [⟨false, 0x80000005, true, 0x80000005, false, false⟩,
        ⟨false, 0x80000005, true, 0, true, false⟩,
        ⟨false, 0x80000005, true, 0x80000005, false, false⟩] =
      [(.timedOut 0x80000005 false, none), (.timedOut 0 true, none),
        (.timedOut 0x80000005 false, some 0x80000005)] ∧
    recvWaitLoop .start [⟨false, false, true, 0x80000005, false, false, false⟩,
        ⟨false, false, false, 0, true, false, false⟩,
        ⟨false, false, true, 0x80000005, false, false, false⟩] =
      [(.timedOut 0x80000005 false, none), (.woken, none),
        (.timedOut 0x80000005 false, some 0x80000005)] ∧
    ¬ Confirmed [(.timedOut 0x80000005 false, none), (.woken, none),
        (.timedOut 0x80000005 false, some 0x80000005)] := by
  refine ⟨by decide, by decide, by decide, fun confirmed => ?_⟩
  obtain ⟨-, -, earlier, call, last⟩ := confirmed
    [(.timedOut 0x80000005 false, none), (.woken, none)] _ _ [] rfl
  have last : [(Round.timedOut 0x80000005 false, none)] ++ [(Round.woken, none)] =
      earlier ++ [(.timedOut 0x80000005 false, call)] := last
  cases List.append_inj_right' last rfl

end ReqRep
