import NonlinearFit.Proofs.ArrayViews
import NonlinearFit.Proofs.StridedMatrix

/-!
# Copying between matrices and longer columns

Writing a matrix into a flat buffer, and reading one out, as programs that change memory in place.
The buffer is seen as a matrix of `stride` rows (`Destination.ofFlat`), of which the first ones are
copied entry by entry (`Destination.inColumns`), from or to a matrix with any steps and in any order.

**Agreement.** The two programs do what `Matrix.scatter` and `Matrix.gather` do with the matrices
that they see (`on_writeColumns`, `on_readColumns`).

Entries are of any type, so what is exact here is exact to the last bit.

Main result: `Matrix.strided_copies` says when a copy succeeds and why it fails otherwise, which
places it changes, and that writing and reading undo each other.
-/

namespace NonlinearFit

variable {rows cols size k stride : Nat} {α : Type}

/-! ## Programs -/

/-- The product of those sizes that are not zero. -/
def Matrix.extent (sizes : List Nat) : Nat := (sizes.filter (· ≠ 0)).foldr (· * ·) 1

/-- A flat memory of `size` entries as a matrix, column after column. -/
def Destination.ofFlat (rows cols size : Nat) : Except StrideError (Destination rows cols size) :=
  if Matrix.maxExtent < Matrix.extent [rows, cols] then .error .overflow
  else if h : rows * cols ≤ size then .ok (.columns rows cols h)
  else .error .outOfBounds

/-- The first `rows` rows of a flat memory whose columns are `stride` apart. -/
def Destination.inColumns (rows cols stride size : Nat) :
    Except StrideError (Destination rows cols size) := do
  let whole ← ofFlat stride cols size
  if h : rows ≤ stride then return whole.top h
  else throw .outOfBounds

/-- Writes a matrix into a flat memory with columns `stride` apart. -/
def writeColumns (source : MatrixView rows cols α) (stride : Nat) (sweep : Sweep rows cols) :
    Mutation (Vector α size) StrideError Unit := do
  let flat ← Destination.inColumns rows cols stride size
  modify (flat.copy source.matrix sweep)

/-- Reads a matrix out of a flat buffer with columns `stride` apart. -/
def readColumns (buffer : Vector α size) (stride : Nat) (destination : Destination rows cols k)
    (sweep : Sweep rows cols) : Mutation (Vector α k) StrideError Unit := do
  let flat ← Destination.inColumns rows cols stride size
  modify (destination.copy (flat.read buffer) sweep)

/-! ## Fitting -/

namespace Matrix

theorem extent_pair (a b : Nat) : extent [a, b] = max a 1 * max b 1 := by
  have hone (k : Nat) (h : k ≠ 0) : max k 1 = k := Nat.max_eq_left (Nat.pos_of_ne_zero h)
  by_cases ha : a = 0 <;> by_cases hb : b = 0 <;> simp [extent, ha, hb, hone]

theorem fits_eq_overflow_iff :
    fits rows cols stride size = .error .overflow ↔ maxExtent < max stride 1 * max cols 1 := by
  unfold fits
  by_cases hextent : maxExtent < max stride 1 * max cols 1
  · rw [if_pos hextent]
    exact ⟨fun _ => hextent, fun _ => rfl⟩
  · rw [if_neg hextent]
    refine ⟨fun he => ?_, fun hlt => absurd hlt hextent⟩
    split at he
    · cases he
    · split at he <;> cases he

theorem fits_eq_outOfBounds_iff :
    fits rows cols stride size = .error .outOfBounds ↔
      max stride 1 * max cols 1 ≤ maxExtent ∧ (size < stride * cols ∨ stride < rows) := by
  cases h : fits rows cols stride size with
  | ok _ =>
    obtain ⟨-, hsize, hrows⟩ := fits_eq_ok_iff.mp h
    exact ⟨nofun, fun ⟨_, hout⟩ => by omega⟩
  | error e =>
    cases e with
    | overflow =>
      have hextent := fits_eq_overflow_iff.mp h
      exact ⟨nofun, fun ⟨hle, _⟩ => absurd hle (Nat.not_le.mpr hextent)⟩
    | outOfBounds =>
      refine ⟨fun _ => ?_, fun _ => rfl⟩
      have hextent : ¬ maxExtent < max stride 1 * max cols 1 := fun hlt =>
        nomatch h.symm.trans (fits_eq_overflow_iff.mpr hlt)
      have hfits : ¬ (max stride 1 * max cols 1 ≤ maxExtent ∧ stride * cols ≤ size ∧
          rows ≤ stride) := fun hall => nomatch h.symm.trans (fits_eq_ok_iff.mpr hall)
      omega

end Matrix

/-- The checks come in the order of `Matrix.fits`, and entry `(i, j)` has the place
`j * stride + i`. -/
theorem inColumns_cases (rows cols stride size : Nat) :
    (∃ e, Matrix.fits rows cols stride size = .error e ∧
      Destination.inColumns rows cols stride size = .error e) ∨
    ∃ flat : Destination rows cols size, Matrix.fits rows cols stride size = .ok () ∧
      Destination.inColumns rows cols stride size = .ok flat ∧
      ∀ i j, (flat.place i j).val = j.val * stride + i.val := by
  unfold Destination.inColumns Destination.ofFlat Matrix.fits
  rw [Matrix.extent_pair]
  by_cases hextent : Matrix.maxExtent < max stride 1 * max cols 1
  · rw [if_pos hextent, if_pos hextent]
    exact .inl ⟨.overflow, rfl, rfl⟩
  rw [if_neg hextent, if_neg hextent]
  by_cases hsize : stride * cols ≤ size
  · rw [if_neg (Nat.not_lt.mpr hsize), dif_pos hsize]
    by_cases hrows : rows ≤ stride
    · rw [if_neg (Nat.not_lt.mpr hrows)]
      refine .inr ⟨(Destination.columns stride cols hsize).top hrows, rfl, dif_pos hrows,
        fun i j => ?_⟩
      show ((Strides.columns stride cols hsize).place (i.castLE hrows) j).val = _
      rw [Strides.place_columns]
      rfl
    · rw [if_pos (Nat.lt_of_not_le hrows)]
      exact .inl ⟨.outOfBounds, rfl, dif_neg hrows⟩
  · rw [if_pos (Nat.lt_of_not_le hsize), dif_neg hsize]
    exact .inl ⟨.outOfBounds, rfl, rfl⟩

/-! ## Agreement -/

section

variable {flat : Destination rows cols size}

theorem scatter_eq_copy (hfits : Matrix.fits rows cols stride size = .ok ())
    (hplace : ∀ i j, (flat.place i j).val = j.val * stride + i.val) (m : Matrix rows cols α)
    (sweep : Sweep rows cols) (buffer : Vector α size) :
    m.scatter stride buffer = .ok (flat.copy m sweep buffer) := by
  refine Matrix.scatter_eq_ok_iff.mpr ⟨hfits, fun i j => ?_, fun p hp => ?_⟩
  · rw [← hplace, Destination.getElem?_copy]
  · refine flat.getElem?_copy_of_spares m sweep buffer fun i j he => hp i j ?_
    rw [← he, hplace]

theorem gather_eq_read (hfits : Matrix.fits rows cols stride size = .ok ())
    (hplace : ∀ i j, (flat.place i j).val = j.val * stride + i.val) (buffer : Vector α size) :
    Matrix.gather rows cols stride buffer = .ok (flat.read buffer) := by
  refine Matrix.gather_eq_ok_iff.mpr ⟨hfits, fun i j => ?_⟩
  rw [← hplace, Strides.getElem?_read]

end

/-- **Writing in place is `Matrix.scatter`.** -/
theorem on_writeColumns (source : MatrixView rows cols α) (stride : Nat) (sweep : Sweep rows cols)
    (buffer : Vector α size) :
    (writeColumns source stride sweep).on buffer =
      Mutation.replacing (source.matrix.scatter stride buffer) buffer := by
  rw [writeColumns, Mutation.on_check_modify]
  obtain ⟨e, hfits, hcheck⟩ | ⟨flat, hfits, hcheck, hplace⟩ :=
    inColumns_cases rows cols stride size
  · rw [hcheck, Matrix.scatter, hfits]
    rfl
  · rw [hcheck, scatter_eq_copy hfits hplace source.matrix sweep]
    rfl

/-- **Reading in place is `Matrix.gather`.** -/
theorem on_readColumns (buffer : Vector α size) (stride : Nat)
    (destination : Destination rows cols k) (sweep : Sweep rows cols) (memory : Vector α k) :
    (readColumns buffer stride destination sweep).on memory =
      Mutation.replacing
        ((Matrix.gather rows cols stride buffer).map (destination.copy · sweep memory)) memory := by
  rw [readColumns, Mutation.on_check_modify]
  obtain ⟨e, hfits, hcheck⟩ | ⟨flat, hfits, hcheck, hplace⟩ :=
    inColumns_cases rows cols stride size
  · rw [hcheck, Matrix.gather_of_error hfits]
    rfl
  · rw [hcheck, gather_eq_read hfits hplace]
    rfl

/-! ## Endings -/

section

variable {source : MatrixView rows cols α} {destination : Destination rows cols k}
  {sweep : Sweep rows cols} {buffer : Vector α size} {memory : Vector α k}

theorem writeColumns_eq_ok_iff {written : Vector α size} :
    (writeColumns source stride sweep).on buffer = (.ok (), written) ↔
      Matrix.fits rows cols stride size = .ok () ∧
        (∀ i j, written[j.val * stride + i.val]? = some (source.matrix.get i j)) ∧
        ∀ p, Matrix.Padding rows cols stride p → written[p]? = buffer[p]? := by
  rw [on_writeColumns, Mutation.replacing_eq_ok_iff, Matrix.scatter_eq_ok_iff]

theorem writeColumns_eq_error_iff {e : StrideError} {left : Vector α size} :
    (writeColumns source stride sweep).on buffer = (.error e, left) ↔
      Matrix.fits rows cols stride size = .error e ∧ left = buffer := by
  rw [on_writeColumns, Mutation.replacing_eq_error_iff, Matrix.scatter]
  cases Matrix.fits rows cols stride size with
  | ok _ => exact ⟨nofun, nofun⟩
  | error e' =>
    show (Except.error e' = Except.error e ∧ _) ↔ _
    rw [Except.error.injEq, Except.error.injEq]

theorem readColumns_eq_ok_iff {filled : Vector α k} :
    (readColumns buffer stride destination sweep).on memory = (.ok (), filled) ↔
      Matrix.fits rows cols stride size = .ok () ∧
        (∀ i j, buffer[j.val * stride + i.val]? = some ((destination.read filled).get i j)) ∧
        ∀ p, destination.Spares p → filled[p]? = memory[p]? := by
  rw [on_readColumns, Mutation.replacing_eq_ok_iff, ← and_assoc, ← Matrix.gather_eq_ok_iff]
  cases Matrix.gather rows cols stride buffer with
  | ok m =>
    show Except.ok _ = .ok filled ↔ _
    rw [Except.ok.injEq, Except.ok.injEq, Destination.copy_eq_iff, eq_comm]
  | error e => exact ⟨nofun, nofun⟩

theorem readColumns_eq_error_iff {e : StrideError} {left : Vector α k} :
    (readColumns buffer stride destination sweep).on memory = (.error e, left) ↔
      Matrix.fits rows cols stride size = .error e ∧ left = memory := by
  rw [on_readColumns, Mutation.replacing_eq_error_iff]
  cases hfits : Matrix.fits rows cols stride size with
  | ok _ =>
    rw [Matrix.gather_of_fits hfits]
    exact ⟨nofun, nofun⟩
  | error e' =>
    rw [Matrix.gather_of_error hfits]
    show (Except.error e' = Except.error e ∧ _) ↔ _
    rw [Except.error.injEq, Except.error.injEq]

/-- Writing ends as the checks do. -/
theorem writeColumns_ending :
    ((writeColumns source stride sweep).on buffer).1 = Matrix.fits rows cols stride size := by
  cases h : ((writeColumns source stride sweep).on buffer).1 with
  | ok _ => exact (writeColumns_eq_ok_iff.mp (Prod.ext h rfl)).1.symm
  | error e => exact (writeColumns_eq_error_iff.mp (Prod.ext h rfl)).1.symm

/-- Reading ends as the checks do. -/
theorem readColumns_ending :
    ((readColumns buffer stride destination sweep).on memory).1 =
      Matrix.fits rows cols stride size := by
  cases h : ((readColumns buffer stride destination sweep).on memory).1 with
  | ok _ => exact (readColumns_eq_ok_iff.mp (Prod.ext h rfl)).1.symm
  | error e => exact (readColumns_eq_error_iff.mp (Prod.ext h rfl)).1.symm

end

/-! ## The main result -/

/-- **A matrix is copied into longer columns and back exactly**, whatever its entries are. Let
`write` copy a matrix with any steps into a flat buffer with columns `stride` apart, and `read` copy
a matrix out of the buffer into a memory where it has any steps, both in any order:

* both succeed if and only if the product of the nonzero ones of `stride` and `cols` is at most
  `2 ^ 63 - 1`, `stride * cols` is at most the size of the buffer, and `rows` is at most `stride`;
* both overflow exactly if the product is larger, and are out of bounds otherwise;
* a copy that fails changes nothing;
* a successful `write` leaves entry `(i, j)` at place `j * stride + i` and keeps all other places,
  and reading what it wrote gives the matrix;
* a successful `read` leaves the entry of place `j * stride + i` in row `i` and column `j` and keeps
  the rest of the memory, and writing what it read leaves the buffer as it was;
* they leave what `scatter` and `gather` compute. -/
theorem Matrix.strided_copies (source : MatrixView rows cols α) (stride : Nat)
    (destination : Destination rows cols k) (sweep sweep' : Sweep rows cols)
    (buffer : Vector α size) (memory : Vector α k) :
    let write := (writeColumns source stride sweep).on buffer
    let read := (readColumns buffer stride destination sweep).on memory
    (∀ ending ∈ [write.1, read.1],
      (ending = .ok () ↔
        extent [stride, cols] ≤ Nat.pow 2 63 - 1 ∧ stride * cols ≤ size ∧ rows ≤ stride) ∧
      (ending = .error .overflow ↔ Nat.pow 2 63 - 1 < extent [stride, cols]) ∧
      (ending = .error .outOfBounds ↔
        extent [stride, cols] ≤ Nat.pow 2 63 - 1 ∧ (size < stride * cols ∨ stride < rows))) ∧
    (∀ e, write.1 = .error e → write.2 = buffer) ∧
    (∀ e, read.1 = .error e → read.2 = memory) ∧
    (write.1 = .ok () →
      (∀ i j, write.2[j.val * stride + i.val]? = some (source.matrix.get i j)) ∧
      (∀ p, Padding rows cols stride p → write.2[p]? = buffer[p]?) ∧
      ∃ back, (readColumns write.2 stride destination sweep').on memory = (.ok (), back) ∧
        destination.read back = source.matrix) ∧
    (read.1 = .ok () →
      (∀ i j, buffer[j.val * stride + i.val]? = some ((destination.read read.2).get i j)) ∧
      (∀ p, destination.Spares p → read.2[p]? = memory[p]?) ∧
      (writeColumns (destination.view read.2) stride sweep').on buffer = (.ok (), buffer)) ∧
    write = Mutation.replacing (source.matrix.scatter stride buffer) buffer ∧
    read = Mutation.replacing
      ((gather rows cols stride buffer).map (destination.copy · sweep memory)) memory := by
  intro write read
  refine ⟨?_, fun e he => ?_, fun e he => ?_, fun hok => ?_, fun hok => ?_,
    on_writeColumns .., on_readColumns ..⟩
  · have hending : ∀ ending ∈ [write.1, read.1], ending = fits rows cols stride size := by
      rintro ending (_ | ⟨_, _ | ⟨_, ⟨⟩⟩⟩)
      · exact writeColumns_ending
      · exact readColumns_ending
    intro ending hmem
    rw [hending ending hmem, extent_pair]
    exact ⟨fits_eq_ok_iff, fits_eq_overflow_iff, fits_eq_outOfBounds_iff⟩
  · exact (writeColumns_eq_error_iff.mp (Prod.ext he rfl)).2
  · exact (readColumns_eq_error_iff.mp (Prod.ext he rfl)).2
  · obtain ⟨hfits, hentry, hpadding⟩ := writeColumns_eq_ok_iff.mp (Prod.ext hok rfl)
    have hback : (readColumns write.2 stride destination sweep').on memory =
        (.ok (), ((readColumns write.2 stride destination sweep').on memory).2) :=
      Prod.ext (readColumns_ending.trans hfits) rfl
    obtain ⟨-, hread, -⟩ := readColumns_eq_ok_iff.mp hback
    refine ⟨hentry, hpadding, _, hback, ?_⟩
    ext i j
    exact Option.some.inj ((hread i j).symm.trans (hentry i j))
  · obtain ⟨hfits, hentry, hspared⟩ := readColumns_eq_ok_iff.mp (Prod.ext hok rfl)
    exact ⟨hentry, hspared, writeColumns_eq_ok_iff.mpr ⟨hfits, hentry, fun _ _ => rfl⟩⟩

/-- A matrix seen through the steps of its transpose, in columns four apart of a buffer with one more
place. -/
theorem Matrix.strided_copies_transposed :
    ∃ written, (writeColumns
        (MatrixView.mk #v[0.5, 1.5, 2.5, 10.5, 11.5, 12.5] (.columns 3 2 (by decide))).transpose 4
        (.byRows 2 3)).on (Vector.replicate 13 (-1.0)) = (.ok (), written) ∧
      written[5]? = some 11.5 ∧ written[6]? = some (-1.0) ∧ written[12]? = some (-1.0) := by
  obtain ⟨hverdict, -, -, hwrite, -⟩ := strided_copies
    (MatrixView.mk #v[0.5, 1.5, 2.5, 10.5, 11.5, 12.5] (.columns 3 2 (by decide))).transpose 4
    (.columns 2 3 (Nat.le_refl 6)) (.byRows 2 3) (.byRows 2 3) (Vector.replicate 13 (-1.0))
    (Vector.replicate 6 0.0)
  have hok := (hverdict _ List.mem_cons_self).1.mpr ⟨by decide, by decide, by decide⟩
  obtain ⟨hentry, hpadding, -⟩ := hwrite hok
  have hpad {p : Nat} (hp : ¬(p % 4 < 2 ∧ p / 4 < 3)) : Padding 2 3 4 p :=
    (padding_iff (by decide)).mpr hp
  exact ⟨_, Prod.ext hok rfl, hentry 1 1, hpadding 6 (hpad (by decide)),
    hpadding 12 (hpad (by decide))⟩

end NonlinearFit
