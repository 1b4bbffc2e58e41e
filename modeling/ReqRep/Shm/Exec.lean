import ReqRep.Shm.Memory

/-!
# Sequential execution

A function of the source that runs without interference (alone, or with the
arena mutex held) is a computation over the mapping that logs each of its
stores in program order. `none` is a Go panic. The log is what a crash cuts
short: the memory a process leaves behind is some prefix of its stores.
-/

namespace ReqRep

/-- One store to the mapping. -/
inductive Write where
  | w32 (l : Loc32) (v : UInt32)
  | w64 (l : Loc64) (v : UInt64)
  | w8 (l : Loc8) (v : UInt8)
  deriving DecidableEq, Repr

/-- The memory after one store. -/
def Mem.write (m : Mem) : Write → Mem
  | .w32 l v => m.set32 l v
  | .w64 l v => m.set64 l v
  | .w8 l v => m.set8 l v

/-- The memory after some stores, oldest first. -/
def Mem.writeAll (m : Mem) (ws : List Write) : Mem := ws.foldl Mem.write m

/-- The current memory and the stores made so far. -/
structure World where
  mem : Mem
  writes : List Write

/-- The world after some further stores. -/
def World.extend (w : World) (ws : List Write) : World :=
  { mem := w.mem.writeAll ws, writes := w.writes ++ ws }

/-- A function that runs alone. -/
abbrev Exec := StateT World Option

namespace Exec

/-- A store, which is logged. -/
def store (wr : Write) : Exec Unit := modify fun w => w.extend [wr]

/-- A load, or `*p`, of each size. -/
def load32 (l : Loc32) : Exec UInt32 := return (← get).mem.u32 l
def load64 (l : Loc64) : Exec UInt64 := return (← get).mem.u64 l
def load8 (l : Loc8) : Exec UInt8 := return (← get).mem.u8 l

/-- A store, or `*p = v`, of each size. -/
def store32 (l : Loc32) (v : UInt32) : Exec Unit := store (.w32 l v)
def store8 (l : Loc8) (v : UInt8) : Exec Unit := store (.w8 l v)

/-- `atomic.AddUint32`, which returns the new value. -/
def add32 (l : Loc32) (d : UInt32) : Exec UInt32 := do
  let v := (← load32 l) + d
  store32 l v
  return v

/-- `atomic.AddUint64`. -/
def add64 (l : Loc64) (d : UInt64) : Exec UInt64 := do
  let v := (← load64 l) + d
  store (.w64 l v)
  return v

/-- `atomic.CompareAndSwapUint32`. -/
def cas32 (l : Loc32) (old new : UInt32) : Exec Bool := do
  if (← load32 l) = old then
    store32 l new
    return true
  else
    return false

/-- A Go panic. -/
def panic {α : Type} : Exec α := fun _ => none

/-- `copy(mem[start:], bs)`, byte by byte. -/
def copyIn (dst : Nat → Loc8) (start : Nat) : List UInt8 → Exec Unit
  | [] => return
  | b :: bs => do
    store8 (dst start) b
    copyIn dst (start + 1) bs

/-- `copy(buf, mem[start:start+len])`, byte by byte. -/
def copyOut (src : Nat → Loc8) (start : Nat) : Nat → Exec (List UInt8)
  | 0 => return []
  | n + 1 => do
    let b ← load8 (src start)
    let bs ← copyOut src (start + 1) n
    return b :: bs

/-- Run a function alone on a memory. -/
def run {α : Type} (p : Exec α) (m : Mem) : Option (α × World) :=
  p { mem := m, writes := [] }

end Exec

/-! ## Stores -/

namespace Mem

@[simp] theorem writeAll_nil (m : Mem) : m.writeAll [] = m := rfl
@[simp] theorem writeAll_cons (m : Mem) (w : Write) (ws : List Write) :
    m.writeAll (w :: ws) = (m.write w).writeAll ws := rfl
theorem writeAll_append (m : Mem) (ws ws' : List Write) :
    m.writeAll (ws ++ ws') = (m.writeAll ws).writeAll ws' := List.foldl_append
@[simp] theorem write_w32 (m : Mem) (l : Loc32) (v : UInt32) :
    m.write (.w32 l v) = m.set32 l v := rfl
@[simp] theorem write_w64 (m : Mem) (l : Loc64) (v : UInt64) :
    m.write (.w64 l v) = m.set64 l v := rfl
@[simp] theorem write_w8 (m : Mem) (l : Loc8) (v : UInt8) :
    m.write (.w8 l v) = m.set8 l v := rfl

/-- What each of some stores leaves alone, they leave alone together. -/
theorem writeAll_of_kept {α : Type} (read : Mem → α) {ws : List Write}
    (kept : ∀ w ∈ ws, ∀ m, read (m.write w) = read m) (m : Mem) :
    read (m.writeAll ws) = read m := by
  induction ws generalizing m with
  | nil => rfl
  | cons w ws ih =>
    rw [writeAll_cons, ih fun w' later => kept w' (List.mem_cons_of_mem _ later)]
    exact kept w List.mem_cons_self m

/-- Stores that never name a location leave it alone. -/
theorem writeAll_u32_of_not_mem {ws : List Write} {l : Loc32}
    (untouched : ∀ v, .w32 l v ∉ ws) (m : Mem) : (m.writeAll ws).u32 l = m.u32 l := by
  refine writeAll_of_kept (fun m => m.u32 l) (fun w member m => ?_) m
  cases w with
  | w32 l' v =>
    refine if_neg ?_
    rintro rfl
    exact untouched v member
  | w64 l' v | w8 l' v => rfl

theorem writeAll_u64_of_not_mem {ws : List Write} {l : Loc64}
    (untouched : ∀ v, .w64 l v ∉ ws) (m : Mem) : (m.writeAll ws).u64 l = m.u64 l := by
  refine writeAll_of_kept (fun m => m.u64 l) (fun w member m => ?_) m
  cases w with
  | w64 l' v =>
    refine if_neg ?_
    rintro rfl
    exact untouched v member
  | w32 l' v | w8 l' v => rfl

theorem writeAll_u8_of_not_mem {ws : List Write} {l : Loc8}
    (untouched : ∀ v, .w8 l v ∉ ws) (m : Mem) : (m.writeAll ws).u8 l = m.u8 l := by
  refine writeAll_of_kept (fun m => m.u8 l) (fun w member m => ?_) m
  cases w with
  | w8 l' v =>
    refine if_neg ?_
    rintro rfl
    exact untouched v member
  | w32 l' v | w64 l' v => rfl

/-- What some stores leave in the bytes depends on the bytes alone. -/
theorem writeAll_u8_congr {m m' : Mem} (same : m.u8 = m'.u8) (ws : List Write) :
    (m.writeAll ws).u8 = (m'.writeAll ws).u8 := by
  induction ws generalizing m m' with
  | nil => exact same
  | cons w ws ih =>
    apply ih
    cases w with
    | w32 l v => exact same
    | w64 l v => exact same
    | w8 l v =>
      funext l'
      rw [write_w8, write_w8, set8_u8, set8_u8, same]

end Mem

/-- The stores of `copyIn`. -/
def copyWrites (dst : Nat → Loc8) (start : Nat) : List UInt8 → List Write
  | [] => []
  | b :: bs => .w8 (dst start) b :: copyWrites dst (start + 1) bs

theorem mem_copyWrites {dst : Nat → Loc8} {start : Nat} {bs : List UInt8} {w : Write}
    (member : w ∈ copyWrites dst start bs) :
    ∃ j v, start ≤ j ∧ j < start + bs.length ∧ w = .w8 (dst j) v := by
  induction bs generalizing start with
  | nil => cases member
  | cons b bs ih =>
    rcases List.mem_cons.mp member with rfl | later
    · exact ⟨start, b, Nat.le_refl _, by simp, rfl⟩
    · obtain ⟨j, v, low, high, rfl⟩ := ih later
      exact ⟨j, v, by omega, by simp only [List.length_cons]; omega, rfl⟩

@[simp] theorem writeAll_copyWrites_u32 (dst : Nat → Loc8) (start : Nat) (bs : List UInt8)
    (m : Mem) : (m.writeAll (copyWrites dst start bs)).u32 = m.u32 := by
  refine Mem.writeAll_of_kept (fun m => m.u32) (fun w member m => ?_) m
  obtain ⟨j, v, -, -, rfl⟩ := mem_copyWrites member
  rfl

@[simp] theorem writeAll_copyWrites_u64 (dst : Nat → Loc8) (start : Nat) (bs : List UInt8)
    (m : Mem) : (m.writeAll (copyWrites dst start bs)).u64 = m.u64 := by
  refine Mem.writeAll_of_kept (fun m => m.u64) (fun w member m => ?_) m
  obtain ⟨j, v, -, -, rfl⟩ := mem_copyWrites member
  rfl

/-- What was copied in is what is there. -/
theorem writeAll_copyWrites {dst : Nat → Loc8} (inj : ∀ i j, dst i = dst j → i = j)
    (start : Nat) {bs : List UInt8} (m : Mem) {j : Nat} (bound : j < bs.length) :
    (m.writeAll (copyWrites dst start bs)).u8 (dst (start + j)) = bs[j] := by
  induction bs generalizing start m j with
  | nil => simp at bound
  | cons b bs ih =>
    cases j with
    | zero =>
      have later : ∀ v, .w8 (dst start) v ∉ copyWrites dst (start + 1) bs := by
        intro v member
        obtain ⟨k, _, low, _, same⟩ := mem_copyWrites member
        injection same with same _
        have := inj _ _ same
        omega
      have stays := Mem.writeAll_u8_of_not_mem later (m.write (.w8 (dst start) b))
      simpa [copyWrites] using stays
    | succ j =>
      have found := ih (start + 1) (m.write (.w8 (dst start) b))
        (Nat.lt_of_succ_lt_succ bound)
      rw [copyWrites, Mem.writeAll_cons, ← Nat.add_assoc, Nat.add_right_comm, found]
      rfl

/-! ## Running the primitives -/

namespace World

@[simp] theorem extend_mem (w : World) (ws : List Write) :
    (w.extend ws).mem = w.mem.writeAll ws := rfl
@[simp] theorem extend_writes (w : World) (ws : List Write) :
    (w.extend ws).writes = w.writes ++ ws := rfl
@[simp] theorem extend_nil (w : World) : w.extend [] = w := by
  simp [extend]
@[simp] theorem extend_extend (w : World) (ws ws' : List Write) :
    (w.extend ws).extend ws' = w.extend (ws ++ ws') := by
  simp [extend, Mem.writeAll_append]

end World

namespace Exec

variable {α β : Type}

@[simp] theorem bind_apply (p : Exec α) (f : α → Exec β) (w : World) :
    (p >>= f) w = (p w).bind fun r => f r.1 r.2 := rfl
@[simp] theorem pure_apply (a : α) (w : World) : (pure a : Exec α) w = some (a, w) := rfl
@[simp] theorem map_apply (f : α → β) (p : Exec α) (w : World) :
    (f <$> p) w = (p w).map fun r => (f r.1, r.2) := by
  change (StateT.map f p) w = _
  simp only [StateT.map]
  cases p w <;> rfl
@[simp] theorem load32_apply (l : Loc32) (w : World) :
    load32 l w = some (w.mem.u32 l, w) := rfl
@[simp] theorem load64_apply (l : Loc64) (w : World) :
    load64 l w = some (w.mem.u64 l, w) := rfl
@[simp] theorem load8_apply (l : Loc8) (w : World) :
    load8 l w = some (w.mem.u8 l, w) := rfl
@[simp] theorem store_apply (wr : Write) (w : World) :
    store wr w = some ((), w.extend [wr]) := rfl
@[simp] theorem store32_apply (l : Loc32) (v : UInt32) (w : World) :
    store32 l v w = some ((), w.extend [.w32 l v]) := rfl
@[simp] theorem store8_apply (l : Loc8) (v : UInt8) (w : World) :
    store8 l v w = some ((), w.extend [.w8 l v]) := rfl
@[simp] theorem add32_apply (l : Loc32) (d : UInt32) (w : World) :
    add32 l d w = some (w.mem.u32 l + d, w.extend [.w32 l (w.mem.u32 l + d)]) := rfl
@[simp] theorem add64_apply (l : Loc64) (d : UInt64) (w : World) :
    add64 l d w = some (w.mem.u64 l + d, w.extend [.w64 l (w.mem.u64 l + d)]) := rfl
@[simp] theorem panic_apply (w : World) : (panic : Exec α) w = none := rfl

@[simp] theorem cas32_apply (l : Loc32) (old new : UInt32) (w : World) :
    cas32 l old new w =
      if w.mem.u32 l = old then some (true, w.extend [.w32 l new]) else some (false, w) := by
  simp only [cas32, bind_apply, load32_apply, Option.bind_some]
  split <;> rfl

@[simp] theorem ite_apply' (c : Prop) [Decidable c] (p q : Exec α) (w : World) :
    (if c then p else q) w = if c then p w else q w := by
  split <;> rfl

@[simp] theorem copyIn_apply (dst : Nat → Loc8) (start : Nat) (bs : List UInt8) (w : World) :
    copyIn dst start bs w = some ((), w.extend (copyWrites dst start bs)) := by
  induction bs generalizing start w with
  | nil => simp [copyIn, copyWrites]
  | cons b bs ih => simp [copyIn, copyWrites, ih]

@[simp] theorem copyOut_apply (src : Nat → Loc8) (start n : Nat) (w : World) :
    copyOut src start n w =
      some ((List.range n).map fun j => w.mem.u8 (src (start + j)), w) := by
  induction n generalizing start with
  | zero => simp [copyOut]
  | succ n ih =>
    have shift : ∀ j, start + 1 + j = start + (j + 1) := by
      intro j
      omega
    simp [copyOut, ih, List.range_succ_eq_map, Function.comp_def, shift]

end Exec

/-! ## Cutting a run short -/

/-- `P` holds of every memory that a death somewhere in these stores leaves
behind; `P` also sees the stores that were not made. -/
def Along (P : Mem → List Write → Prop) (m : Mem) : List Write → Prop
  | [] => P m []
  | w :: ws => P m (w :: ws) ∧ Along P (m.write w) ws

/-- What holds along some writes holds at every cut of them. -/
theorem Along.cut {P : Mem → List Write → Prop} {m : Mem} {ws : List Write}
    (along : Along P m ws) (k : Nat) : P (m.writeAll (ws.take k)) (ws.drop k) := by
  induction ws generalizing m k with
  | nil =>
    rw [List.take_nil, List.drop_nil]
    exact along
  | cons w ws ih =>
    cases k with
    | zero => exact along.1
    | succ k => exact ih along.2 k

theorem Along.final {P : Mem → List Write → Prop} {m : Mem} {ws : List Write}
    (along : Along P m ws) : P (m.writeAll ws) [] := by
  have cut := along.cut ws.length
  rwa [List.take_length, List.drop_length] at cut

end ReqRep
