import NonlinearFit.Matrix.ColumnMajor

/-!
# Matrices in somebody's memory

A matrix that is lent or borrowed has no buffer of its own. Entry `(i, j)` of it stands at place
`start + i * rowStep + j * colStep` of a memory, with steps of either sign (`Strides`). Exchanging
the steps transposes it, and shortening it takes its first rows.

**Reading.** `Strides.read` takes the matrix out of a memory. Several entries may share a place.

**Writing.** `Strides.assign` puts entries into a memory one after another, in the order of any
`Sweep` that comes to each entry. Where a matrix is written, different entries have different places
(`Destination`), so the order cannot matter: `Destination.copy_eq_iff` says that in the end the
memory holds the matrix, and that every place without an entry is as it was.

**Programs.** A `Mutation` changes a state in place and may stop with an error half way, so that a
failure that changes nothing is something to be proved.
-/

namespace NonlinearFit

/-! ## Places -/

/-- Where the entries of a matrix stand in a memory of `size` entries. -/
structure Strides (rows cols size : Nat) where
  start : Int
  rowStep : Int
  colStep : Int
  within (i : Fin rows) (j : Fin cols) :
    0 ≤ start + i.val * rowStep + j.val * colStep ∧
      start + i.val * rowStep + j.val * colStep < size

namespace Strides

variable {rows cols size : Nat} {α : Type}

/-- Where entry `(i, j)` stands. -/
def place (s : Strides rows cols size) (i : Fin rows) (j : Fin cols) : Fin size :=
  ⟨(s.start + i.val * s.rowStep + j.val * s.colStep).toNat, by
    have := s.within i j
    omega⟩

/-- Different entries have different places. -/
def Separate (s : Strides rows cols size) : Prop :=
  ∀ i j i' j', s.place i j = s.place i' j' → i = i' ∧ j = j'

/-- The steps exchanged. -/
def transpose (s : Strides rows cols size) : Strides cols rows size where
  start := s.start
  rowStep := s.colStep
  colStep := s.rowStep
  within i j := by
    have := s.within j i
    omega

/-- The first `k` rows. -/
def top (s : Strides rows cols size) {k : Nat} (h : k ≤ rows) : Strides k cols size where
  start := s.start
  rowStep := s.rowStep
  colStep := s.colStep
  within i j := s.within (i.castLE h) j

theorem place_transpose (s : Strides rows cols size) (i : Fin cols) (j : Fin rows) :
    s.transpose.place i j = s.place j i := by
  apply Fin.ext
  show (s.start + i.val * s.colStep + j.val * s.rowStep).toNat =
    (s.start + j.val * s.rowStep + i.val * s.colStep).toNat
  omega

theorem Separate.top {s : Strides rows cols size} (hs : s.Separate) {k : Nat} (h : k ≤ rows) :
    (s.top h).Separate := by
  intro i j i' j' he
  obtain ⟨hi, hj⟩ := hs (i.castLE h) j (i'.castLE h) j' he
  exact ⟨Fin.ext (congrArg (fun i : Fin rows => i.val) hi), hj⟩

/-! ### Columns one after another -/

/-- Column after column from the first place on. A matrix without entries takes no steps. -/
def columns (rows cols : Nat) {size : Nat} (h : rows * cols ≤ size) : Strides rows cols size where
  start := 0
  rowStep := if rows * cols = 0 then 0 else 1
  colStep := if rows * cols = 0 then 0 else rows
  within i j := by
    have hlt : j.val * rows + i.val < rows * cols := (ColumnMajor.place i j).isLt
    have hcast : ((j.val * rows : Nat) : Int) = j.val * (rows : Int) := Int.natCast_mul ..
    rw [if_neg (Nat.ne_zero_of_lt hlt), if_neg (Nat.ne_zero_of_lt hlt)]
    omega

theorem place_columns (h : rows * cols ≤ size) (i : Fin rows) (j : Fin cols) :
    (columns rows cols h).place i j = (ColumnMajor.place i j).castLE h := by
  have hlt : j.val * rows + i.val < rows * cols := (ColumnMajor.place i j).isLt
  have hcast : ((j.val * rows : Nat) : Int) = j.val * (rows : Int) := Int.natCast_mul ..
  apply Fin.ext
  show _ = j.val * rows + i.val
  simp only [place, columns, if_neg (Nat.ne_zero_of_lt hlt)]
  omega

theorem separate_columns (h : rows * cols ≤ size) : (columns rows cols h).Separate := by
  intro i j i' j' he
  rw [place_columns, place_columns] at he
  have hplace : ColumnMajor.place i j = ColumnMajor.place i' j' :=
    Fin.ext (congrArg (fun p : Fin size => p.val) he)
  constructor
  · rw [← ColumnMajor.rowOf_place i j, hplace, ColumnMajor.rowOf_place]
  · rw [← ColumnMajor.colOf_place i j, hplace, ColumnMajor.colOf_place]

/-! ## Reading -/

/-- The matrix that a memory holds. -/
def read (s : Strides rows cols size) (memory : Vector α size) : Matrix rows cols α :=
  .ofFn fun i j => memory.get (s.place i j)

@[simp]
theorem get_read (s : Strides rows cols size) (memory : Vector α size) (i : Fin rows)
    (j : Fin cols) : (s.read memory).get i j = memory.get (s.place i j) := by
  simp [read]

theorem getElem?_read (s : Strides rows cols size) (memory : Vector α size) (i : Fin rows)
    (j : Fin cols) : memory[(s.place i j).val]? = some ((s.read memory).get i j) := by
  rw [get_read, Vector.getElem?_eq_getElem (s.place i j).isLt]
  rfl

theorem read_transpose (s : Strides rows cols size) (memory : Vector α size) :
    s.transpose.read memory = (s.read memory).transpose := by
  ext i j
  simp only [Matrix.transpose, Matrix.get_ofFn, get_read, place_transpose]

/-! ## Writing -/

/-- Writes entries of a matrix one after another. -/
def assign (s : Strides rows cols size) (m : Matrix rows cols α) (order : List (Fin rows × Fin cols))
    (memory : Vector α size) : Vector α size :=
  order.foldl (fun memory e => memory.set (s.place e.1 e.2) (m.get e.1 e.2)) memory

variable {s : Strides rows cols size} {m : Matrix rows cols α}

/-- A place to which no entry is written keeps what it has. -/
theorem getElem?_assign_of_ne {p : Nat} {order : List (Fin rows × Fin cols)}
    (h : ∀ e ∈ order, (s.place e.1 e.2).val ≠ p) (memory : Vector α size) :
    (s.assign m order memory)[p]? = memory[p]? := by
  induction order generalizing memory with
  | nil => rfl
  | cons e order ih =>
    show (s.assign m order (memory.set (s.place e.1 e.2) (m.get e.1 e.2)))[p]? = memory[p]?
    rw [ih fun e he => h e (List.mem_cons_of_mem _ he)]
    exact Vector.getElem?_set_ne _ (h e List.mem_cons_self)

/-- An entry that is written stays at its place, since no later one is written there. -/
theorem getElem?_assign_of_mem (hs : s.Separate) {i : Fin rows} {j : Fin cols}
    {order : List (Fin rows × Fin cols)} (h : (i, j) ∈ order) (memory : Vector α size) :
    (s.assign m order memory)[(s.place i j).val]? = some (m.get i j) := by
  induction order generalizing memory with
  | nil => cases h
  | cons e order ih =>
    show (s.assign m order (memory.set (s.place e.1 e.2) (m.get e.1 e.2)))[(s.place i j).val]? = _
    -- An order may come to an entry twice, and the last visit counts.
    by_cases hmem : (i, j) ∈ order
    · exact ih hmem _
    · obtain rfl : (i, j) = e := (List.mem_cons.mp h).resolve_right hmem
      rw [getElem?_assign_of_ne]
      · exact Vector.getElem?_set_self _
      · rintro ⟨i', j'⟩ he hplace
        obtain ⟨rfl, rfl⟩ := hs _ _ _ _ (Fin.ext hplace)
        exact hmem he

end Strides

/-- An order of all entries. -/
structure Sweep (rows cols : Nat) where
  order : List (Fin rows × Fin cols)
  complete (i : Fin rows) (j : Fin cols) : (i, j) ∈ order

/-- Row after row. -/
def Sweep.byRows (rows cols : Nat) : Sweep rows cols where
  order := (List.finRange rows).flatMap fun i => (List.finRange cols).map (i, ·)
  complete i j := by simp

/-- Where a matrix can be written. -/
structure Destination (rows cols size : Nat) extends Strides rows cols size where
  separate : toStrides.Separate

namespace Destination

variable {rows cols size : Nat} {α : Type} (d : Destination rows cols size) (m : Matrix rows cols α)
  (sweep : Sweep rows cols) (memory : Vector α size)

/-- Column after column, without gaps. -/
def columns (rows cols : Nat) {size : Nat} (h : rows * cols ≤ size) :
    Destination rows cols size :=
  ⟨.columns rows cols h, Strides.separate_columns h⟩

/-- The first `k` rows. -/
def top {k : Nat} (h : k ≤ rows) : Destination k cols size :=
  ⟨d.toStrides.top h, d.separate.top h⟩

/-- Whether no entry stands at place `p`. -/
def Spares (p : Nat) : Prop := ∀ i j, (d.place i j).val ≠ p

/-- Writes all entries of a matrix, in the order of a sweep. -/
def copy : Vector α size := d.assign m sweep.order memory

theorem getElem?_copy (i : Fin rows) (j : Fin cols) :
    (d.copy m sweep memory)[(d.place i j).val]? = some (m.get i j) :=
  Strides.getElem?_assign_of_mem d.separate (sweep.complete i j) memory

theorem getElem?_copy_of_spares {p : Nat} (h : d.Spares p) :
    (d.copy m sweep memory)[p]? = memory[p]? :=
  Strides.getElem?_assign_of_ne (fun e _ => h e.1 e.2) memory

variable {d m sweep memory}

/-- **The order of writing does not matter.** -/
theorem copy_eq_iff {written : Vector α size} :
    d.copy m sweep memory = written ↔
      d.read written = m ∧ ∀ p, d.Spares p → written[p]? = memory[p]? := by
  constructor
  · rintro rfl
    refine ⟨?_, fun p hp => getElem?_copy_of_spares _ _ _ _ hp⟩
    ext i j
    exact Option.some.inj ((d.getElem?_read ..).symm.trans (getElem?_copy ..))
  · rintro ⟨rfl, hspared⟩
    refine Vector.ext fun p hp => Option.some_inj.mp ?_
    rw [← Vector.getElem?_eq_getElem hp, ← Vector.getElem?_eq_getElem hp]
    by_cases h : ∃ i j, (d.place i j).val = p
    · obtain ⟨i, j, rfl⟩ := h
      exact (getElem?_copy ..).trans (d.getElem?_read ..).symm
    · have hspares : d.Spares p := fun i j he => h ⟨i, j, he⟩
      exact (getElem?_copy_of_spares d _ sweep memory hspares).trans (hspared p hspares).symm

/-- What was written can be read. -/
@[simp]
theorem read_copy (m : Matrix rows cols α) (sweep : Sweep rows cols) (memory : Vector α size) :
    d.read (d.copy m sweep memory) = m :=
  (copy_eq_iff.mp rfl).1

end Destination

/-- A matrix that can be read. -/
structure MatrixView (rows cols : Nat) (α : Type) where
  {size : Nat}
  memory : Vector α size
  strides : Strides rows cols size

namespace MatrixView

variable {rows cols : Nat} {α : Type}

/-- The entries seen. -/
def matrix (v : MatrixView rows cols α) : Matrix rows cols α := v.strides.read v.memory

def transpose (v : MatrixView rows cols α) : MatrixView cols rows α :=
  ⟨v.memory, v.strides.transpose⟩

@[simp]
theorem matrix_transpose (v : MatrixView rows cols α) :
    v.transpose.matrix = v.matrix.transpose :=
  v.strides.read_transpose v.memory

end MatrixView

/-- The matrix that was written into a memory, to be read from there. -/
def Destination.view {rows cols size : Nat} {α : Type} (d : Destination rows cols size)
    (memory : Vector α size) : MatrixView rows cols α :=
  ⟨memory, d.toStrides⟩

/-! ## Programs that write in place -/

/-- A program that changes `σ`. What it changed before it stops with an error stays changed. -/
abbrev Mutation (σ ε α : Type) := ExceptT ε (StateM σ) α

namespace Mutation

variable {σ ε α : Type}

/-- How a program ends, and what it leaves. -/
def on (program : Mutation σ ε α) (s : σ) : Except ε α × σ := StateT.run (ExceptT.run program) s

/-- How a program ends that replaces `s` or leaves it alone. -/
def replacing (result : Except ε σ) (s : σ) : Except ε Unit × σ :=
  match result with
  | .ok s' => (.ok (), s')
  | .error e => (.error e, s)

theorem replacing_eq_ok_iff {result : Except ε σ} {s s' : σ} :
    replacing result s = (.ok (), s') ↔ result = .ok s' := by
  cases result with
  | ok a => exact ⟨fun h => congrArg Except.ok (Prod.mk.inj h).2, fun h => by cases h; rfl⟩
  | error e => exact ⟨nofun, nofun⟩

theorem replacing_eq_error_iff {result : Except ε σ} {s s' : σ} {e : ε} :
    replacing result s = (.error e, s') ↔ result = .error e ∧ s' = s := by
  cases result with
  | ok a => exact ⟨nofun, nofun⟩
  | error e' =>
    constructor
    · intro h
      cases h
      exact ⟨rfl, rfl⟩
    · rintro ⟨h, rfl⟩
      cases h
      rfl

/-- The program that computes what replaces `s`. -/
def replace (f : σ → Except ε σ) : Mutation σ ε Unit := ExceptT.mk fun s => replacing (f s) s

/-- If the only check comes before the only change, a failure changes nothing. -/
theorem on_check_modify (check : Except ε α) (f : α → σ → σ) (s : σ) :
    on (do let a ← liftM check; modify (f a)) s = replacing (check.map (f · s)) s := by
  cases check <;> rfl

end Mutation

end NonlinearFit
