import NonlinearFit.Matrix.Basic

/-!
# Column-major buffers

The routine stores a matrix column after column: entry `(i, j)` of a `ColumnMajor rows cols`
stands at place `j * rows + i` of its flat buffer.

**Copying.** `load` copies a matrix in and `store` copies it out, both only for a matrix of the
buffer's own shape; `load_same` and `store_same` say what happens then, and `toMatrix_ofMatrix` and
`ofMatrix_toMatrix` that the two undo each other. Entries are not looked at, except by `agrees`, so
all of this holds for entries of any type.
-/

namespace NonlinearFit

/-- A matrix in column-major storage. -/
structure ColumnMajor (rows cols : Nat) (α : Type := Float) where
  flat : Vector α (rows * cols)
deriving DecidableEq

/-- A copy between a buffer and a matrix of another shape was attempted. -/
inductive LayoutMismatch where
  | load (matrix buffer : Nat × Nat)
  | store (matrix buffer : Nat × Nat)
deriving DecidableEq, Repr

/-- The text of a failed copy. -/
def LayoutMismatch.message : LayoutMismatch → String
  | load m b => describe "load" m b
  | store m b => describe "store" m b
where
  describe (copy : String) (m b : Nat × Nat) : String :=
    "assertion `left == right` failed: layout " ++ copy ++ " shape mismatch\n  left: "
      ++ pair m ++ "\n right: " ++ pair b
  pair (s : Nat × Nat) : String := "(" ++ toString s.1 ++ ", " ++ toString s.2 ++ ")"

namespace ColumnMajor

variable {rows cols : Nat} {α : Type}

/-- Where entry `(i, j)` stands. -/
def place (i : Fin rows) (j : Fin cols) : Fin (rows * cols) :=
  ⟨j.val * rows + i.val, by
    calc j.val * rows + i.val < j.val * rows + rows := Nat.add_lt_add_left i.isLt _
      _ = (j.val + 1) * rows := (Nat.succ_mul ..).symm
      _ ≤ cols * rows := Nat.mul_le_mul_right _ j.isLt
      _ = rows * cols := Nat.mul_comm ..⟩

/-- The row of the entry at place `k`. -/
def rowOf (k : Fin (rows * cols)) : Fin rows :=
  ⟨k.val % rows, Nat.mod_lt _ (Nat.pos_of_mul_pos_right (Nat.zero_lt_of_lt k.isLt))⟩

/-- The column of the entry at place `k`. -/
def colOf (k : Fin (rows * cols)) : Fin cols :=
  ⟨k.val / rows, Nat.div_lt_of_lt_mul k.isLt⟩

@[simp]
theorem rowOf_place (i : Fin rows) (j : Fin cols) : rowOf (place i j) = i := by
  apply Fin.ext
  simp only [rowOf, place]
  rw [Nat.mul_add_mod', Nat.mod_eq_of_lt i.isLt]

@[simp]
theorem colOf_place (i : Fin rows) (j : Fin cols) : colOf (place i j) = j := by
  have : 0 < rows := Nat.zero_lt_of_lt i.isLt
  apply Fin.ext
  simp only [colOf, place]
  rw [Nat.mul_comm, Nat.mul_add_div this, Nat.div_eq_of_lt i.isLt, Nat.add_zero]

@[simp]
theorem place_rowOf_colOf (k : Fin (rows * cols)) : place (rowOf k) (colOf k) = k := by
  apply Fin.ext
  simp only [place, rowOf, colOf]
  rw [Nat.mul_comm]
  exact Nat.div_add_mod ..

/-- The entry in row `i` and column `j`. -/
def get (b : ColumnMajor rows cols α) (i : Fin rows) (j : Fin cols) : α := b.flat[place i j]

/-- A matrix in column-major storage. -/
def ofMatrix (m : Matrix rows cols α) : ColumnMajor rows cols α :=
  ⟨Vector.ofFn fun k => m.get (rowOf k) (colOf k)⟩

/-- The matrix that a buffer holds. -/
def toMatrix (b : ColumnMajor rows cols α) : Matrix rows cols α := .ofFn b.get

/-- The buffer with every entry equal to `v`. -/
def fill (rows cols : Nat) (v : α) : ColumnMajor rows cols α := ⟨.replicate _ v⟩

def zeros (rows cols : Nat) : ColumnMajor rows cols := fill rows cols 0.0

@[simp]
theorem get_ofMatrix (m : Matrix rows cols α) (i : Fin rows) (j : Fin cols) :
    (ofMatrix m).get i j = m.get i j := by
  simp [get, ofMatrix]

@[simp]
theorem toMatrix_ofMatrix (m : Matrix rows cols α) : (ofMatrix m).toMatrix = m := by
  ext i j
  simp [toMatrix]

@[simp]
theorem ofMatrix_toMatrix (b : ColumnMajor rows cols α) : ofMatrix b.toMatrix = b := by
  cases b
  simp only [ofMatrix, toMatrix, Matrix.get_ofFn, get, place_rowOf_colOf, mk.injEq]
  exact Vector.ext fun k hk => by simp

/-! ## Copying between shapes -/

/-- The buffer with a matrix copied in. -/
def load {r c : Nat} (_b : ColumnMajor rows cols α) (m : Matrix r c α) :
    Except LayoutMismatch (ColumnMajor rows cols α) :=
  if h : r = rows ∧ c = cols then .ok (ofMatrix (h.1 ▸ h.2 ▸ m))
  else .error (.load (r, c) (rows, cols))

/-- The matrix with the buffer copied in. -/
def store {r c : Nat} (b : ColumnMajor rows cols α) (_m : Matrix r c α) :
    Except LayoutMismatch (Matrix r c α) :=
  if h : r = rows ∧ c = cols then .ok (h.1 ▸ h.2 ▸ b.toMatrix)
  else .error (.store (r, c) (rows, cols))

@[simp]
theorem load_same (b : ColumnMajor rows cols α) (m : Matrix rows cols α) :
    b.load m = .ok (ofMatrix m) := by
  simp [load]

@[simp]
theorem store_same (b : ColumnMajor rows cols α) (m : Matrix rows cols α) :
    b.store m = .ok b.toMatrix := by
  simp [store]

/-- Writes one place of the flat buffer; a place past its end changes nothing. -/
def write (b : ColumnMajor rows cols α) (k : Nat) (v : α) : ColumnMajor rows cols α :=
  ⟨b.flat.setIfInBounds k v⟩

/-- Whether two buffers agree entry by entry as floats compare: a NaN differs from itself, and the
two zeros are equal. -/
def agrees (a b : ColumnMajor rows cols) : Bool :=
  (List.finRange (rows * cols)).all fun k => a.flat[k].beq b.flat[k]

end ColumnMajor

end NonlinearFit
