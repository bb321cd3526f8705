import NonlinearFit.Matrix.Basic

/-!
# Matrices inside longer columns

A callback passes a matrix as a flat buffer in which consecutive columns start `stride` places
apart, so entry `(i, j)` stands at place `j * stride + i` and a column may end in padding.

**Fitting.** `fits` first bounds the extent (the product of the nonzero ones of stride and number
of columns), then asks that all columns lie inside the buffer, then that the rows fit into a
column (`fits_eq_ok_iff`). Then every entry has a place in the buffer (`place_lt_of_fits`).

**Moving.** `gather` reads the matrix and `scatter` writes it; padding and whatever lies behind
the last column are left alone.
-/

namespace NonlinearFit

/-- Why a buffer cannot be seen as a matrix. -/
inductive StrideError where
  | overflow
  | outOfBounds
deriving DecidableEq, Repr

/-- The text of the error. -/
def StrideError.message : StrideError → String
  | overflow => "ShapeError/Overflow: arithmetic overflow"
  | outOfBounds => "ShapeError/OutOfBounds: out of bounds indexing"

namespace Matrix

/-- The largest extent of an array, `2 ^ 63 - 1` entries. -/
def maxExtent : Nat := 9223372036854775807

/-- Whether a matrix of `rows` rows and `cols` columns can lie in a buffer of `size` entries with
columns `stride` apart. -/
def fits (rows cols stride size : Nat) : Except StrideError Unit :=
  if maxExtent < max stride 1 * max cols 1 then .error .overflow
  else if size < stride * cols then .error .outOfBounds
  else if stride < rows then .error .outOfBounds
  else .ok ()

variable {rows cols stride size : Nat} {α : Type}

/-! ## Fitting -/

theorem fits_eq_ok_iff :
    fits rows cols stride size = .ok () ↔
      max stride 1 * max cols 1 ≤ maxExtent ∧ stride * cols ≤ size ∧ rows ≤ stride := by
  unfold fits
  by_cases hextent : maxExtent < max stride 1 * max cols 1
  · rw [if_pos hextent]
    exact ⟨nofun, fun h => absurd h.1 (Nat.not_le.mpr hextent)⟩
  by_cases hsize : size < stride * cols
  · rw [if_neg hextent, if_pos hsize]
    exact ⟨nofun, fun h => absurd h.2.1 (Nat.not_le.mpr hsize)⟩
  by_cases hrows : stride < rows
  · rw [if_neg hextent, if_neg hsize, if_pos hrows]
    exact ⟨nofun, fun h => absurd h.2.2 (Nat.not_le.mpr hrows)⟩
  · rw [if_neg hextent, if_neg hsize, if_neg hrows]
    exact ⟨fun _ => ⟨Nat.not_lt.mp hextent, Nat.not_lt.mp hsize, Nat.not_lt.mp hrows⟩, fun _ => rfl⟩

theorem place_lt (h : rows ≤ stride) (i : Fin rows) (j : Fin cols) :
    j.val * stride + i.val < stride * cols :=
  calc j.val * stride + i.val < j.val * stride + stride :=
        Nat.add_lt_add_left (Nat.lt_of_lt_of_le i.isLt h) _
    _ = (j.val + 1) * stride := (Nat.succ_mul ..).symm
    _ ≤ cols * stride := Nat.mul_le_mul_right _ j.isLt
    _ = stride * cols := Nat.mul_comm ..

theorem place_lt_of_fits (h : fits rows cols stride size = .ok ()) (i : Fin rows) (j : Fin cols) :
    j.val * stride + i.val < size := by
  obtain ⟨-, hsize, hrows⟩ := fits_eq_ok_iff.mp h
  exact Nat.lt_of_lt_of_le (place_lt hrows i j) hsize

/-! ## Moving -/

/-- Reads a matrix out of a flat buffer. -/
def gather (rows cols stride : Nat) (buffer : Vector α size) :
    Except StrideError (Matrix rows cols α) :=
  match h : fits rows cols stride size with
  | .error e => .error e
  | .ok () => .ok (.ofFn fun i j => buffer.get ⟨j.val * stride + i.val, place_lt_of_fits h i j⟩)

theorem gather_of_fits (h : fits rows cols stride size = .ok ()) (buffer : Vector α size) :
    gather rows cols stride buffer =
      .ok (.ofFn fun i j => buffer.get ⟨j.val * stride + i.val, place_lt_of_fits h i j⟩) := by
  unfold gather
  split
  · next h' => cases h.symm.trans h'
  · rfl

theorem gather_of_error {e : StrideError} (h : fits rows cols stride size = .error e)
    (buffer : Vector α size) : gather rows cols stride buffer = .error e := by
  unfold gather
  split
  · next h' => exact congrArg Except.error (Except.error.inj (h'.symm.trans h))
  · next h' => cases h.symm.trans h'

/-- Writes a matrix into a flat buffer. -/
def scatter (m : Matrix rows cols α) (stride : Nat) (buffer : Vector α size) :
    Except StrideError (Vector α size) := do
  fits rows cols stride size
  return buffer.mapIdx fun p v =>
    if h : p % stride < rows ∧ p / stride < cols then m.get ⟨_, h.1⟩ ⟨_, h.2⟩ else v

end Matrix

end NonlinearFit
