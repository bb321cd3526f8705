/-!
# Matrices

A `Matrix rows cols` stores its entries row after row, entry `(i, j)` at place `i * cols + j`. It is
what callers and evaluators see; the routine's own storage is the column-major one of
`NonlinearFit.Matrix.ColumnMajor`.

**Entries.** `get` and `ofFn` are the two sides of every operation (`get_ofFn`), and a matrix is
known by its entries (`ext`). A matrix without columns stores nothing, however many rows it has.
Entries are floats unless another type is named. Nothing but `zeros` depends on what they are.
-/

namespace NonlinearFit

/-- A matrix with the given shape. -/
structure Matrix (rows cols : Nat) (α : Type := Float) where
  /-- The entries row after row. -/
  entries : Vector α (rows * cols)

namespace Matrix

variable {rows cols : Nat} {α : Type}

/-! ## Places -/

/-- Where entry `(i, j)` stands. -/
def place (i : Fin rows) (j : Fin cols) : Fin (rows * cols) :=
  ⟨i.val * cols + j.val, by
    calc i.val * cols + j.val < i.val * cols + cols := Nat.add_lt_add_left j.isLt _
      _ = (i.val + 1) * cols := (Nat.succ_mul ..).symm
      _ ≤ rows * cols := Nat.mul_le_mul_right _ i.isLt⟩

/-- The row of the entry at place `k`. -/
def rowOf (k : Fin (rows * cols)) : Fin rows :=
  ⟨k.val / cols, Nat.div_lt_of_lt_mul (Nat.lt_of_lt_of_eq k.isLt (Nat.mul_comm ..))⟩

/-- The column of the entry at place `k`. -/
def colOf (k : Fin (rows * cols)) : Fin cols :=
  ⟨k.val % cols, Nat.mod_lt _ (Nat.pos_of_mul_pos_left (Nat.zero_lt_of_lt k.isLt))⟩

@[simp]
theorem rowOf_place (i : Fin rows) (j : Fin cols) : rowOf (place i j) = i := by
  have : 0 < cols := Nat.zero_lt_of_lt j.isLt
  apply Fin.ext
  simp only [rowOf, place]
  rw [Nat.mul_comm, Nat.mul_add_div this, Nat.div_eq_of_lt j.isLt, Nat.add_zero]

@[simp]
theorem colOf_place (i : Fin rows) (j : Fin cols) : colOf (place i j) = j := by
  apply Fin.ext
  simp only [colOf, place]
  rw [Nat.mul_add_mod', Nat.mod_eq_of_lt j.isLt]

@[simp]
theorem place_rowOf_colOf (k : Fin (rows * cols)) : place (rowOf k) (colOf k) = k := by
  apply Fin.ext
  simp only [place, rowOf, colOf]
  rw [Nat.mul_comm]
  exact Nat.div_add_mod ..

/-! ## Entries -/

/-- The entry in row `i` and column `j`. -/
def get (m : Matrix rows cols α) (i : Fin rows) (j : Fin cols) : α := m.entries[place i j]

def ofFn (f : Fin rows → Fin cols → α) : Matrix rows cols α :=
  ⟨Vector.ofFn fun k => f (rowOf k) (colOf k)⟩

@[simp]
theorem get_ofFn (f : Fin rows → Fin cols → α) (i : Fin rows) (j : Fin cols) :
    (ofFn f).get i j = f i j := by
  simp [get, ofFn]

@[ext]
theorem ext {m m' : Matrix rows cols α} (h : ∀ i j, m.get i j = m'.get i j) : m = m' := by
  cases m; cases m'
  congr
  refine Vector.ext fun k hk => ?_
  have := h (rowOf ⟨k, hk⟩) (colOf ⟨k, hk⟩)
  simp only [get, place_rowOf_colOf] at this
  exact this

/-! ## Operations -/

/-- The matrix with every entry equal to `v`. -/
def fill (rows cols : Nat) (v : α) : Matrix rows cols α := ofFn fun _ _ => v

def zeros (rows cols : Nat) : Matrix rows cols := fill rows cols 0.0

def transpose (m : Matrix rows cols α) : Matrix cols rows α := ofFn fun i j => m.get j i

/-- The matrix with `f i j v` in place of each entry `v`. -/
def mapIdx (m : Matrix rows cols α) (f : Fin rows → Fin cols → α → α) : Matrix rows cols α :=
  ofFn fun i j => f i j (m.get i j)

/-- The matrix with one entry replaced; a place outside the shape changes nothing. -/
def set (m : Matrix rows cols α) (i j : Nat) (v : α) : Matrix rows cols α :=
  m.mapIdx fun i' j' w => if i'.val = i ∧ j'.val = j then v else w

/-- The first `k` rows. -/
def top (m : Matrix rows cols α) (k : Nat) (h : k ≤ rows) : Matrix k cols α :=
  ofFn fun i j => m.get (i.castLE h) j

/-- The matrix with its first rows replaced by those of `m'`. -/
def setTop {k : Nat} (m : Matrix rows cols α) (m' : Matrix k cols α) : Matrix rows cols α :=
  m.mapIdx fun i j w => if h : i.val < k then m'.get ⟨i, h⟩ j else w

@[simp]
theorem get_mapIdx (m : Matrix rows cols α) (f : Fin rows → Fin cols → α → α)
    (i : Fin rows) (j : Fin cols) : (m.mapIdx f).get i j = f i j (m.get i j) := by
  simp [mapIdx]

theorem get_set (m : Matrix rows cols α) (i j : Nat) (v : α) (i' : Fin rows) (j' : Fin cols) :
    (m.set i j v).get i' j' = if i'.val = i ∧ j'.val = j then v else m.get i' j' := by
  simp [set]

@[simp]
theorem get_top (m : Matrix rows cols α) (k : Nat) (h : k ≤ rows) (i : Fin k) (j : Fin cols) :
    (m.top k h).get i j = m.get (i.castLE h) j := by
  simp [top]

theorem get_setTop {k : Nat} (m : Matrix rows cols α) (m' : Matrix k cols α) (i : Fin rows)
    (j : Fin cols) :
    (m.setTop m').get i j = if h : i.val < k then m'.get ⟨i.val, h⟩ j else m.get i j := by
  simp [setTop]

@[simp]
theorem top_setTop {k : Nat} (m : Matrix rows cols α) (m' : Matrix k cols α) (h : k ≤ rows) :
    (m.setTop m').top k h = m' := by
  ext i j
  simp [get_setTop]

@[simp]
theorem top_zeros (k : Nat) (h : k ≤ rows) : (zeros rows cols).top k h = zeros k cols := by
  ext i j
  simp [zeros, fill]

end Matrix

end NonlinearFit
