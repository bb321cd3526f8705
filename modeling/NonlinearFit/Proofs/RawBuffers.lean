import NonlinearFit.Problem.Exchange
import NonlinearFit.Refusal

/-!
# Buffers whose sizes are data

Vectors, matrices and column-major buffers have their sizes in their types, so no copy between two
of them can fail. Here they are plain arrays and matrices of any shape. Whatever can fail on those is
checked where it happens, and a check that fails is a `Fault`: a copy between different sizes or
shapes, a slice past the end, an index out of range, a copy between layouts.

Typed buffers are turned into raw ones by forgetting their types (`Matrix.raw`, `ColumnMajor.raw`,
`ExchangedVector.raw`, `ExchangedMatrix.raw`). The raw buffers of a given size are exactly those that
come from typed ones (`RawMatrix.shape_eq_iff` to `RawExchangedMatrix.fits_iff`), and on these no
operation faults.
-/

namespace NonlinearFit

/-! ## Faults -/

/-- A check of sizes that failed. -/
inductive Fault where
  /-- A copy between arrays of different sizes. -/
  | copy (destination source : Nat)
  /-- A copy between matrices of different shapes. -/
  | assign (destination source : Nat × Nat)
  /-- A slice past the end. -/
  | slice (wanted found : Nat)
  | index (i size : Nat)
  | layout (m : LayoutMismatch)

/-- Why an operation on raw buffers does not come to its end. -/
inductive Halt where
  | refused (e : Refusal)
  | fault (f : Fault)

/-- The result of an operation on raw buffers. -/
abbrev Checked (α : Type) := Except Halt α

/-! ## Arrays -/

section

variable {α : Type}

/-- The array `destination` with `source` copied over it. -/
def copyInto (destination source : Array α) : Checked (Array α) :=
  if destination.size = source.size then .ok source
  else .error (.fault (.copy destination.size source.size))

/-- The array with one entry replaced. -/
def writeAt (v : Array α) (i : Nat) (x : α) : Checked (Array α) :=
  if h : i < v.size then .ok (v.set i x h) else .error (.fault (.index i v.size))

/-- The first `k` entries of an array. -/
def firstEntries (v : Array α) (k : Nat) : Checked (Array α) :=
  if k ≤ v.size then .ok (v.extract 0 k) else .error (.fault (.slice k v.size))

/-- An array where the routine expects one of size `k`. -/
def lendArray (k : Nat) (v : Array α) : Checked (Vector α k) :=
  if h : v.size = k then .ok ⟨v, h⟩ else .error (.fault (.copy k v.size))

@[simp]
theorem copyInto_toArray {k : Nat} (v w : Vector α k) :
    copyInto v.toArray w.toArray = .ok w.toArray := by
  simp [copyInto]

@[simp]
theorem writeAt_toArray {k : Nat} (v : Vector α k) {i : Nat} (hi : i < k) (x : α) :
    writeAt v.toArray i x = .ok (v.set i x hi).toArray := by
  simp [writeAt, hi]

@[simp]
theorem lendArray_toArray {k : Nat} (v : Vector α k) : lendArray k v.toArray = .ok v := by
  simp [lendArray]

end

/-! ## Matrices -/

/-- A matrix whose shape is data. -/
structure RawMatrix where
  rows : Nat
  cols : Nat
  matrix : Matrix rows cols

/-- A matrix in column-major storage whose shape is data. -/
structure RawColumnMajor where
  rows : Nat
  cols : Nat
  buffer : ColumnMajor rows cols

def Matrix.raw {rows cols : Nat} (m : Matrix rows cols) : RawMatrix := ⟨rows, cols, m⟩

def ColumnMajor.raw {rows cols : Nat} (b : ColumnMajor rows cols) : RawColumnMajor :=
  ⟨rows, cols, b⟩

namespace RawMatrix

def shape (m : RawMatrix) : Nat × Nat := (m.rows, m.cols)

/-- The matrix with `source` copied over it. -/
def assign (m source : RawMatrix) : Checked RawMatrix :=
  if m.shape = source.shape then .ok source
  else .error (.fault (.assign m.shape source.shape))

/-- The first `k` rows. -/
def top (m : RawMatrix) (k : Nat) : Checked RawMatrix :=
  if h : k ≤ m.rows then .ok (m.matrix.top k h).raw else .error (.fault (.slice k m.rows))

/-- The matrix with `source` copied over its first `k` rows. -/
def assignTop (m : RawMatrix) (k : Nat) (source : RawMatrix) : Checked RawMatrix :=
  if k ≤ m.rows then
    if h : (k, m.cols) = source.shape then
      .ok (m.matrix.setTop ((Prod.mk.inj h).2 ▸ source.matrix)).raw
    else .error (.fault (.assign (k, m.cols) source.shape))
  else .error (.fault (.slice k m.rows))

@[simp]
theorem assign_raw {rows cols : Nat} (m m' : Matrix rows cols) :
    m.raw.assign m'.raw = .ok m'.raw := by
  simp [assign, shape, Matrix.raw]

@[simp]
theorem top_raw {rows cols k : Nat} (m : Matrix rows cols) (h : k ≤ rows) :
    m.raw.top k = .ok (m.top k h).raw :=
  dif_pos h

@[simp]
theorem assignTop_raw {rows cols k : Nat} (m : Matrix rows cols) (m' : Matrix k cols)
    (h : k ≤ rows) : m.raw.assignTop k m'.raw = .ok (m.setTop m').raw := by
  simp [assignTop, shape, Matrix.raw, h]

end RawMatrix

namespace RawColumnMajor

def shape (b : RawColumnMajor) : Nat × Nat := (b.rows, b.cols)

def flat (b : RawColumnMajor) : Array Float := b.buffer.flat.toArray

/-- The buffer with a matrix copied in. -/
def load (b : RawColumnMajor) (m : RawMatrix) : Checked RawColumnMajor :=
  match b.buffer.load m.matrix with
  | .ok buffer => .ok buffer.raw
  | .error e => .error (.fault (.layout e))

/-- The matrix with the buffer copied in. -/
def store (b : RawColumnMajor) (m : RawMatrix) : Checked RawMatrix :=
  match b.buffer.store m.matrix with
  | .ok matrix => .ok matrix.raw
  | .error e => .error (.fault (.layout e))

/-- The buffer with other entries. -/
def refill (b : RawColumnMajor) (entries : Array Float) : Checked RawColumnMajor := do
  return ⟨b.rows, b.cols, ⟨← lendArray (b.rows * b.cols) entries⟩⟩

@[simp]
theorem load_raw {rows cols : Nat} (b : ColumnMajor rows cols) (m : Matrix rows cols) :
    b.raw.load m.raw = .ok (ColumnMajor.ofMatrix m).raw := by
  simp [load, Matrix.raw, ColumnMajor.raw]

@[simp]
theorem store_raw {rows cols : Nat} (b : ColumnMajor rows cols) (m : Matrix rows cols) :
    b.raw.store m.raw = .ok b.toMatrix.raw := by
  simp [store, Matrix.raw, ColumnMajor.raw]

@[simp]
theorem refill_raw {rows cols : Nat} (b : ColumnMajor rows cols) (v : Vector Float (rows * cols)) :
    b.raw.refill v.toArray = .ok (ColumnMajor.raw ⟨v⟩) := by
  simp [refill, ColumnMajor.raw, bind, Except.bind, pure, Except.pure]

end RawColumnMajor

/-! ## Exchanged buffers -/

/-- The three copies of a vector that goes to the routine and comes back. -/
structure RawExchangedVector where
  given : Array Float
  lent : Array Float
  received : Array Float

/-- The three copies of a matrix that goes to the routine and comes back. -/
structure RawExchangedMatrix where
  given : RawMatrix
  lent : RawColumnMajor
  received : RawMatrix

def ExchangedVector.raw {k : Nat} (v : ExchangedVector k) : RawExchangedVector :=
  ⟨v.given.toArray, v.lent.toArray, v.received.toArray⟩

def ExchangedMatrix.raw {rows cols : Nat} (m : ExchangedMatrix rows cols) : RawExchangedMatrix :=
  ⟨m.given.raw, m.lent.raw, m.received.raw⟩

namespace RawExchangedVector

def zeros (k : Nat) : RawExchangedVector :=
  ⟨.replicate k 0.0, .replicate k 0.0, .replicate k 0.0⟩

def lend (v : RawExchangedVector) : Checked RawExchangedVector := do
  return { v with lent := ← copyInto v.lent v.given }

def collect (v : RawExchangedVector) : Checked RawExchangedVector := do
  return { v with received := ← copyInto v.received v.lent }

def carry (v : RawExchangedVector) : Checked RawExchangedVector := do
  return { v with given := ← copyInto v.given v.received }

variable {k : Nat} (v : ExchangedVector k)

@[simp]
theorem lend_raw : v.raw.lend = .ok v.lend.raw := by
  simp [lend, ExchangedVector.raw, ExchangedVector.lend, bind, Except.bind, pure, Except.pure]

@[simp]
theorem collect_raw : v.raw.collect = .ok v.collect.raw := by
  simp [collect, ExchangedVector.raw, ExchangedVector.collect, bind, Except.bind, pure, Except.pure]

@[simp]
theorem carry_raw : v.raw.carry = .ok v.carry.raw := by
  simp [carry, ExchangedVector.raw, ExchangedVector.carry, bind, Except.bind, pure, Except.pure]

end RawExchangedVector

namespace RawExchangedMatrix

def zeros (rows cols : Nat) : RawExchangedMatrix :=
  ⟨(Matrix.zeros rows cols).raw, (ColumnMajor.zeros rows cols).raw, (Matrix.zeros rows cols).raw⟩

def lend (m : RawExchangedMatrix) : Checked RawExchangedMatrix := do
  return { m with lent := ← m.lent.load m.given }

def collect (m : RawExchangedMatrix) : Checked RawExchangedMatrix := do
  return { m with received := ← m.lent.store m.received }

def carry (m : RawExchangedMatrix) : Checked RawExchangedMatrix := do
  return { m with given := ← m.given.assign m.received }

variable {rows cols : Nat} (m : ExchangedMatrix rows cols)

@[simp]
theorem lend_raw :
    m.raw.lend = .ok (ExchangedMatrix.raw { m with lent := .ofMatrix m.given }) := by
  simp [lend, ExchangedMatrix.raw, bind, Except.bind, pure, Except.pure]

@[simp]
theorem collect_raw :
    m.raw.collect = .ok (ExchangedMatrix.raw { m with received := m.lent.toMatrix }) := by
  simp [collect, ExchangedMatrix.raw, bind, Except.bind, pure, Except.pure]

@[simp]
theorem carry_raw : m.raw.carry = .ok m.carry.raw := by
  simp [carry, ExchangedMatrix.raw, ExchangedMatrix.carry, bind, Except.bind, pure, Except.pure]

end RawExchangedMatrix

/-! ## Fitting -/

/-- The three copies of a vector have `k` entries. -/
structure RawExchangedVector.Fits (v : RawExchangedVector) (k : Nat) : Prop where
  given : v.given.size = k
  lent : v.lent.size = k
  received : v.received.size = k

/-- The three copies of a matrix have the shape `shape`. -/
structure RawExchangedMatrix.Fits (m : RawExchangedMatrix) (shape : Nat × Nat) : Prop where
  given : m.given.shape = shape
  lent : m.lent.shape = shape
  received : m.received.shape = shape

theorem RawExchangedVector.fits_iff {v : RawExchangedVector} {k : Nat} :
    v.Fits k ↔ ∃ w : ExchangedVector k, v = w.raw := by
  constructor
  · rintro ⟨given, lent, received⟩
    exact ⟨⟨⟨v.given, given⟩, ⟨v.lent, lent⟩, ⟨v.received, received⟩⟩, rfl⟩
  · rintro ⟨w, rfl⟩
    exact ⟨w.given.size_toArray, w.lent.size_toArray, w.received.size_toArray⟩

theorem RawExchangedMatrix.fits_iff {m : RawExchangedMatrix} {rows cols : Nat} :
    m.Fits (rows, cols) ↔ ∃ w : ExchangedMatrix rows cols, m = w.raw := by
  constructor
  · obtain ⟨⟨r, c, given⟩, ⟨r', c', lent⟩, ⟨r'', c'', received⟩⟩ := m
    rintro ⟨hgiven, hlent, hreceived⟩
    cases hgiven
    cases hlent
    cases hreceived
    exact ⟨⟨given, lent, received⟩, rfl⟩
  · rintro ⟨w, rfl⟩
    exact ⟨rfl, rfl, rfl⟩

theorem RawMatrix.shape_eq_iff {m : RawMatrix} {rows cols : Nat} :
    m.shape = (rows, cols) ↔ ∃ w : Matrix rows cols, m = w.raw := by
  constructor
  · obtain ⟨r, c, w⟩ := m
    intro h
    cases h
    exact ⟨w, rfl⟩
  · rintro ⟨w, rfl⟩
    rfl

theorem RawColumnMajor.shape_eq_iff {b : RawColumnMajor} {rows cols : Nat} :
    b.shape = (rows, cols) ↔ ∃ w : ColumnMajor rows cols, b = w.raw := by
  constructor
  · obtain ⟨r, c, w⟩ := b
    intro h
    cases h
    exact ⟨w, rfl⟩
  · rintro ⟨w, rfl⟩
    rfl

end NonlinearFit
