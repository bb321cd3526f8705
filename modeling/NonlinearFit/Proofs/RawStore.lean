import NonlinearFit.Proofs.RawBuffers
import NonlinearFit.Proofs.Setters

/-!
# The data of a problem, with sizes that are data

A `RawStore` has the buffers of a `Store` as raw ones. Its operations look at the sizes of what they
are given, as those of a store do, and fault where a copy, a slice or an index does not fit.

**Fitting.** A raw store *fits* dimensions if every buffer has the size that they fix
(`RawStore.Fits`). These are exactly the stores with the types forgotten (`RawStore.fits_iff`).

**Operations.** On a store with its types forgotten, no operation faults, and each does what it does
on the store (`Store.raw_setBounds` to `Store.raw_nonlinearValues`).
-/

namespace NonlinearFit

variable {d : Dimensions}

/-! ## Stores -/

/-- The buffers of a problem, of any sizes. -/
structure RawStore where
  lower : Array Float
  upper : Array Float
  linear : RawMatrix
  linearLent : RawColumnMajor
  jacobian : RawExchangedMatrix
  multipliers : RawExchangedVector
  hessian : RawExchangedMatrix
  point : RawExchangedVector
  state : Array Integer
  values : Array Float
  objective : Float
  gradient : Array Float
  integerWork : Array Integer
  realWork : Array Float
  status : Option Status
  iterations : Integer

/-- The store with the sizes of its buffers forgotten. -/
def Store.raw (s : Store d) : RawStore where
  lower := s.lower.toArray
  upper := s.upper.toArray
  linear := s.linear.raw
  linearLent := s.linearLent.raw
  jacobian := s.jacobian.raw
  multipliers := s.multipliers.raw
  hessian := s.hessian.raw
  point := s.point.raw
  state := s.state.toArray
  values := s.values.toArray
  objective := s.objective
  gradient := s.gradient.toArray
  integerWork := s.integerWork.toArray
  realWork := s.realWork.toArray
  status := s.status
  iterations := s.iterations

/-- Every buffer has the size that the dimensions fix. -/
structure RawStore.Fits (s : RawStore) (d : Dimensions) : Prop where
  lower : s.lower.size = d.unknowns + d.linear + d.nonlinear
  upper : s.upper.size = d.unknowns + d.linear + d.nonlinear
  linear : s.linear.shape = (d.linearRows, d.unknowns)
  linearLent : s.linearLent.shape = (d.linearRows, d.unknowns)
  jacobian : s.jacobian.Fits (d.jacobianRows, d.unknowns)
  multipliers : s.multipliers.Fits (d.unknowns + d.linear + d.nonlinear)
  hessian : s.hessian.Fits (d.unknowns, d.unknowns)
  point : s.point.Fits d.unknowns
  state : s.state.size = d.unknowns + d.linear + d.nonlinear
  values : s.values.size = d.jacobianRows
  gradient : s.gradient.size = d.unknowns
  integerWork : s.integerWork.size = d.integerWork
  realWork : s.realWork.size = d.realWork

/-- **The raw stores that fit dimensions are the stores with their types forgotten.** -/
theorem RawStore.fits_iff {s : RawStore} : s.Fits d ↔ ∃ w : Store d, s = w.raw := by
  constructor
  · intro h
    obtain ⟨linear, hlinear⟩ := RawMatrix.shape_eq_iff.mp h.linear
    obtain ⟨linearLent, hlinearLent⟩ := RawColumnMajor.shape_eq_iff.mp h.linearLent
    obtain ⟨jacobian, hjacobian⟩ := RawExchangedMatrix.fits_iff.mp h.jacobian
    obtain ⟨multipliers, hmultipliers⟩ :=
      RawExchangedVector.fits_iff (k := d.bounds).mp h.multipliers
    obtain ⟨hessian, hhessian⟩ := RawExchangedMatrix.fits_iff.mp h.hessian
    obtain ⟨point, hpoint⟩ := RawExchangedVector.fits_iff.mp h.point
    refine ⟨⟨⟨s.lower, h.lower⟩, ⟨s.upper, h.upper⟩, linear, linearLent, jacobian, multipliers,
      hessian, point, ⟨s.state, h.state⟩, ⟨s.values, h.values⟩, s.objective,
      ⟨s.gradient, h.gradient⟩, ⟨s.integerWork, h.integerWork⟩, ⟨s.realWork, h.realWork⟩,
      s.status, s.iterations⟩, ?_⟩
    simp only [Store.raw, ← hlinear, ← hlinearLent, ← hjacobian, ← hmultipliers, ← hhessian,
      ← hpoint]
  · rintro ⟨w, rfl⟩
    exact {
      lower := w.lower.size_toArray
      upper := w.upper.size_toArray
      linear := rfl
      linearLent := rfl
      jacobian := RawExchangedMatrix.fits_iff.mpr ⟨w.jacobian, rfl⟩
      multipliers := RawExchangedVector.fits_iff.mpr ⟨w.multipliers, rfl⟩
      hessian := RawExchangedMatrix.fits_iff.mpr ⟨w.hessian, rfl⟩
      point := RawExchangedVector.fits_iff.mpr ⟨w.point, rfl⟩
      state := w.state.size_toArray
      values := w.values.size_toArray
      gradient := w.gradient.size_toArray
      integerWork := w.integerWork.size_toArray
      realWork := w.realWork.size_toArray }

/-! ## Operations -/

/-- Refuses data that has not the expected length. -/
def checkSize (data : String) (expected found : Nat) : Checked Unit :=
  if expected = found then .ok () else .error (.refused (.lengthMismatch data expected found))

/-- Refuses a matrix that has not the expected shape. -/
def checkShape (data : String) (expected found : Nat × Nat) : Checked Unit :=
  if expected = found then .ok () else .error (.refused (.shapeMismatch data expected found))

namespace RawStore

variable (d : Dimensions)

/-- The buffers of a new problem. -/
def new : RawStore where
  lower := .replicate d.bounds (-Store.unbounded)
  upper := .replicate d.bounds Store.unbounded
  linear := (Matrix.zeros d.linearRows d.unknowns).raw
  linearLent := (ColumnMajor.zeros d.linearRows d.unknowns).raw
  jacobian := .zeros d.jacobianRows d.unknowns
  multipliers := .zeros d.bounds
  hessian := .zeros d.unknowns d.unknowns
  point := .zeros d.unknowns
  state := .replicate d.bounds 0
  values := .replicate d.jacobianRows 0.0
  objective := 0.0
  gradient := .replicate d.unknowns 0.0
  integerWork := .replicate d.integerWork 0
  realWork := .replicate d.realWork 0.0
  status := none
  iterations := 0

variable (s : RawStore)

/-! ### Setters -/

def setBounds (lower upper : Array Float) : Checked RawStore := do
  checkSize "lower" d.bounds lower.size
  checkSize "upper" d.bounds upper.size
  return { s with lower := ← copyInto s.lower lower, upper := ← copyInto s.upper upper }

def setLower (v : Array Float) : Checked RawStore := do
  checkSize "lower" d.bounds v.size
  return { s with lower := ← copyInto s.lower v }

def setUpper (v : Array Float) : Checked RawStore := do
  checkSize "upper" d.bounds v.size
  return { s with upper := ← copyInto s.upper v }

def setBound (i : Nat) (lower upper : Float) : Checked RawStore := do
  if d.bounds ≤ i then throw (.refused (.boundIndex i d.bounds))
  return { s with lower := ← writeAt s.lower i lower, upper := ← writeAt s.upper i upper }

def setLinear (m : RawMatrix) : Checked RawStore := do
  checkShape "linear matrix" (d.linear, d.unknowns) m.shape
  return { s with linear := ← s.linear.assignTop d.linear m }

def setJacobian (m : RawMatrix) : Checked RawStore := do
  checkShape "jacobian template" (d.nonlinear, d.unknowns) m.shape
  return { s with jacobian.given := ← s.jacobian.given.assignTop d.nonlinear m }

def setMultipliers (v : Array Float) : Checked RawStore := do
  checkSize "multipliers" d.bounds v.size
  return { s with multipliers.given := ← copyInto s.multipliers.given v }

def setHessian (m : RawMatrix) : Checked RawStore := do
  checkShape "hessian" (d.unknowns, d.unknowns) m.shape
  return { s with hessian.given := ← s.hessian.given.assign m }

def setState (v : Array Integer) : Checked RawStore := do
  checkSize "state" d.bounds v.size
  return { s with state := ← copyInto s.state v }

/-! ### Solves -/

def warmStart : Checked RawStore := do
  return { s with
    multipliers := ← s.multipliers.carry
    jacobian := ← s.jacobian.carry
    hessian := ← s.hessian.carry }

/-- Prepares a call that starts from `x₀`. -/
def lend (x₀ : Array Float) : Checked RawStore := do
  let point := { s.point with given := ← copyInto s.point.given x₀ }
  return { s with
    linearLent := ← s.linearLent.load s.linear
    jacobian := ← s.jacobian.lend
    multipliers := ← s.multipliers.lend
    hessian := ← s.hessian.lend
    point := ← point.lend }

/-- What the routine receives, if every buffer has the size that the routine is told. -/
def arguments : Checked (Arguments d) := do
  return {
    linear := ← lendArray _ s.linearLent.flat
    lower := ← lendArray _ s.lower
    upper := ← lendArray _ s.upper
    status := 0
    iterations := 0
    state := ← lendArray _ s.state
    values := ← lendArray _ s.values
    jacobian := ← lendArray _ s.jacobian.lent.flat
    multipliers := ← lendArray _ s.multipliers.lent
    objective := s.objective
    gradient := ← lendArray _ s.gradient
    hessian := ← lendArray _ s.hessian.lent.flat
    point := ← lendArray _ s.point.lent
    integerWork := ← lendArray _ s.integerWork
    realWork := ← lendArray _ s.realWork }

/-- The buffers with what the routine left in them. -/
def takeBack {d : Dimensions} (left : Arguments d) : Checked RawStore := do
  return { s with
    lower := left.lower.toArray
    upper := left.upper.toArray
    linearLent := ← s.linearLent.refill left.linear.toArray
    jacobian.lent := ← s.jacobian.lent.refill left.jacobian.toArray
    multipliers.lent := left.multipliers.toArray
    hessian.lent := ← s.hessian.lent.refill left.hessian.toArray
    point.lent := left.point.toArray
    state := left.state.toArray
    values := left.values.toArray
    objective := left.objective
    gradient := left.gradient.toArray
    integerWork := left.integerWork.toArray
    realWork := left.realWork.toArray }

/-- Makes what the routine left readable, and keeps its status. -/
def collect (status : Status) (iterations : Integer) : Checked RawStore := do
  return { s with
    point := ← s.point.collect
    hessian := ← s.hessian.collect
    multipliers := ← s.multipliers.collect
    jacobian := ← s.jacobian.collect
    status := some status
    iterations }

/-! ### Getters -/

def linearPart : Checked RawMatrix := s.linear.top d.linear

def jacobianGiven : Checked RawMatrix := s.jacobian.given.top d.nonlinear

def jacobianReceived : Checked RawMatrix := s.jacobian.received.top d.nonlinear

def nonlinearValues : Checked (Array Float) := firstEntries s.values d.nonlinear

end RawStore

/-- A buffer that does not fit makes a setter fault. -/
example (s : RawStore) (x : Float) :
    { s with lower := #[] }.setLower ⟨1, 0, 0, by decide, by decide, by decide, by decide⟩ #[x] =
      .error (.fault (.copy 0 1)) :=
  rfl

/-! ## What the operations do -/

/-- The result of a setter, with the sizes of its buffers forgotten. -/
def Store.rawResult : Except Refusal (Store d) → Checked RawStore
  | .ok s => .ok s.raw
  | .error e => .error (.refused e)

section

variable {α : Type} (data : String)

theorem eq_toArray_or_size_ne (k : Nat) (v : Array α) :
    (∃ w : Vector α k, v = w.toArray) ∨ v.size ≠ k := by
  by_cases h : v.size = k
  · exact .inl ⟨⟨v, h⟩, rfl⟩
  · exact .inr h

theorem checkSize_toArray {k : Nat} (v : Vector α k) : checkSize data k v.toArray.size = .ok () :=
  if_pos v.size_toArray.symm

theorem checkSize_of_ne {k : Nat} {v : Array α} (h : v.size ≠ k) :
    checkSize data k v.size = .error (.refused (.lengthMismatch data k v.size)) :=
  if_neg h.symm

theorem checkShape_raw {rows cols : Nat} (m : Matrix rows cols) :
    checkShape data (rows, cols) m.raw.shape = .ok () :=
  if_pos rfl

theorem checkShape_of_ne {rows cols r c : Nat} {m : Matrix r c} (h : (r, c) ≠ (rows, cols)) :
    checkShape data (rows, cols) m.raw.shape =
      .error (.refused (.shapeMismatch data (rows, cols) (r, c))) :=
  if_neg h.symm

end

namespace Store

theorem raw_new (d : Dimensions) : (Store.new d).raw = RawStore.new d := rfl

variable (s : Store d)

/-- A setter that replaces one array. -/
theorem rawResult_of_array {α : Type} {k : Nat} (data : String) (w : Vector α k) (v : Array α)
    {f : Vector α k → Store d} {g : Array α → RawStore} (h : ∀ x, g x.toArray = (f x).raw) :
    (do checkSize data k v.size; return g (← copyInto w.toArray v)) =
      rawResult (do return f (← ofSize data k v)) := by
  obtain ⟨x, rfl⟩ | hv := eq_toArray_or_size_ne k v
  · rw [checkSize_toArray, ofSize_toArray, copyInto_toArray]
    exact congrArg Except.ok (h x)
  · rw [checkSize_of_ne _ hv, ofSize_of_ne hv]
    rfl

/-- A setter that replaces the first rows of a matrix. -/
theorem rawResult_of_rows {rows cols k r c : Nat} (data : String) (w : Matrix rows cols)
    (hk : k ≤ rows) (m : Matrix r c) {f : Matrix k cols → Store d} {g : RawMatrix → RawStore}
    (h : ∀ x, g (w.setTop x).raw = (f x).raw) :
    (do checkShape data (k, cols) m.raw.shape; return g (← w.raw.assignTop k m.raw)) =
      rawResult (do return f (← ofShape data k cols m)) := by
  by_cases hm : (r, c) = (k, cols)
  · cases hm
    rw [checkShape_raw, ofShape_self, RawMatrix.assignTop_raw _ _ hk]
    exact congrArg Except.ok (h m)
  · rw [checkShape_of_ne _ hm, ofShape_of_ne hm]
    rfl

theorem raw_setBounds (lower upper : Array Float) :
    s.raw.setBounds d lower upper = rawResult (s.setBounds lower upper) := by
  unfold RawStore.setBounds Store.setBounds
  obtain ⟨l, rfl⟩ | hl := eq_toArray_or_size_ne d.bounds lower
  · obtain ⟨u, rfl⟩ | hu := eq_toArray_or_size_ne d.bounds upper
    · simp only [checkSize_toArray, ofSize_toArray, raw, copyInto_toArray]
      rfl
    · simp only [checkSize_toArray, ofSize_toArray, checkSize_of_ne _ hu, ofSize_of_ne hu]
      rfl
  · simp only [checkSize_of_ne _ hl, ofSize_of_ne hl]
    rfl

theorem raw_setLower (v : Array Float) : s.raw.setLower d v = rawResult (s.setLower v) :=
  rawResult_of_array "lower" s.lower v fun _ => rfl

theorem raw_setUpper (v : Array Float) : s.raw.setUpper d v = rawResult (s.setUpper v) :=
  rawResult_of_array "upper" s.upper v fun _ => rfl

theorem raw_setBound (i : Nat) (lower upper : Float) :
    s.raw.setBound d i lower upper = rawResult (s.setBound i lower upper) := by
  unfold RawStore.setBound Store.setBound
  by_cases hi : i < d.bounds
  · simp only [if_neg (Nat.not_le_of_lt hi), dif_pos hi, raw, writeAt_toArray _ hi]
    rfl
  · rw [if_pos (Nat.le_of_not_lt hi), dif_neg hi]
    rfl

theorem raw_setLinear {r c : Nat} (m : Matrix r c) :
    s.raw.setLinear d m.raw = rawResult (s.setLinear m) :=
  rawResult_of_rows "linear matrix" s.linear d.linear_le_linearRows m fun _ => rfl

theorem raw_setJacobian {r c : Nat} (m : Matrix r c) :
    s.raw.setJacobian d m.raw = rawResult (s.setJacobian m) :=
  rawResult_of_rows "jacobian template" s.jacobian.given d.nonlinear_le_jacobianRows m fun _ => rfl

theorem raw_setMultipliers (v : Array Float) :
    s.raw.setMultipliers d v = rawResult (s.setMultipliers v) :=
  rawResult_of_array "multipliers" s.multipliers.given v fun _ => rfl

theorem raw_setHessian {r c : Nat} (m : Matrix r c) :
    s.raw.setHessian d m.raw = rawResult (s.setHessian m) := by
  unfold RawStore.setHessian Store.setHessian
  by_cases hm : (r, c) = (d.unknowns, d.unknowns)
  · cases hm
    simp only [checkShape_raw, ofShape_self, raw, ExchangedMatrix.raw, RawMatrix.assign_raw]
    rfl
  · simp only [checkShape_of_ne _ hm, ofShape_of_ne hm]
    rfl

theorem raw_setState (v : Array Integer) : s.raw.setState d v = rawResult (s.setState v) :=
  rawResult_of_array "state" s.state v fun _ => rfl

theorem raw_warmStart : s.raw.warmStart = .ok s.warmStart.raw := by
  simp only [RawStore.warmStart, raw, RawExchangedVector.carry_raw, RawExchangedMatrix.carry_raw]
  rfl

theorem raw_lend (x₀ : Vector Float d.unknowns) :
    s.raw.lend x₀.toArray = .ok (s.prepared x₀).raw := by
  have hpoint : ({ s.point.raw with given := x₀.toArray } : RawExchangedVector).lend =
      .ok (ExchangedVector.raw ⟨x₀, x₀, s.point.received⟩) :=
    RawExchangedVector.lend_raw { s.point with given := x₀ }
  have hgiven : copyInto s.point.raw.given x₀.toArray = .ok x₀.toArray :=
    copyInto_toArray s.point.given x₀
  simp only [RawStore.lend, raw, RawColumnMajor.load_raw, RawExchangedMatrix.lend_raw,
    RawExchangedVector.lend_raw, hgiven, bind, Except.bind, hpoint]
  rfl

theorem raw_arguments : s.raw.arguments d = .ok s.arguments := by
  simp only [RawStore.arguments, raw, RawColumnMajor.flat, ColumnMajor.raw, ExchangedMatrix.raw,
    ExchangedVector.raw, lendArray_toArray]
  rfl

theorem raw_takeBack (left : Arguments d) : s.raw.takeBack left = .ok (s.takeBack left).raw := by
  simp only [RawStore.takeBack, raw, ExchangedMatrix.raw, RawColumnMajor.refill_raw]
  rfl

theorem raw_collect (left : Arguments d) :
    (s.takeBack left).raw.collect ⟨left.status⟩ left.iterations = .ok (s.settled left).raw := by
  simp only [RawStore.collect, raw, RawExchangedVector.collect_raw, RawExchangedMatrix.collect_raw]
  rfl

theorem raw_linearPart : s.raw.linearPart d = .ok s.linearPart.raw :=
  RawMatrix.top_raw s.linear d.linear_le_linearRows

theorem raw_jacobianGiven : s.raw.jacobianGiven d = .ok s.jacobianGiven.raw :=
  RawMatrix.top_raw s.jacobian.given d.nonlinear_le_jacobianRows

theorem raw_jacobianReceived : s.raw.jacobianReceived d = .ok s.jacobianReceived.raw :=
  RawMatrix.top_raw s.jacobian.received d.nonlinear_le_jacobianRows

theorem raw_nonlinearValues : s.raw.nonlinearValues d = .ok s.nonlinearValues.toArray := by
  have hle : d.nonlinear ≤ s.raw.values.size :=
    Nat.le_trans d.nonlinear_le_jacobianRows (Nat.le_of_eq s.values.size_toArray.symm)
  unfold RawStore.nonlinearValues firstEntries
  rw [if_pos hle]
  congr 1
  apply Array.ext
  · simp [raw, Nat.min_eq_left d.nonlinear_le_jacobianRows]
  · intro i hi hi'
    simp [raw, nonlinearValues]

end Store

end NonlinearFit
