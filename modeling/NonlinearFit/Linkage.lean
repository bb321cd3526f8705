import NonlinearFit.Handle
import NonlinearFit.Service

/-!
# Linked routines

A routine can be called directly, or through the calling convention of a linked library. There all
arguments go by position and by reference, and a routine behind the library works on what stands
there.

**Going.** `Positional` lists the positions in the order in which the library declares them, and
`Arguments.positional` fills them one after the other. Buffers go without their lengths; the
library takes from each as many entries as the integers say (`Positional.buffers?`), and gets back
what was passed (`arguments?_positional`).

**Coming back.** The routine's buffers are those of the caller, so what it leaves in them stands in
the same positions (`Positional.overwritten`), where the caller finds it (`Arguments.found`,
`found_overwritten`).

**Option lines** go as bytes with their number (`textOf?`).
-/

namespace NonlinearFit

/-- The arguments of a call, by position. -/
structure Positional where
  unknowns : Integer
  linear : Integer
  nonlinear : Integer
  linearRows : Integer
  jacobianRows : Integer
  hessianRows : Integer
  coefficients : Array Float
  lower : Array Float
  upper : Array Float
  constraintCallback : Callback
  objectiveCallback : Callback
  status : Integer
  iterations : Integer
  state : Array Integer
  values : Array Float
  jacobian : Array Float
  multipliers : Array Float
  objective : Float
  gradient : Array Float
  hessian : Array Float
  point : Array Float
  integerWork : Array Integer
  integerWorkLength : Integer
  realWork : Array Float
  realWorkLength : Integer

/-- Arguments put into their positions. The workspaces are said to be as long as they are. -/
def Arguments.positional {d : Dimensions} (a : Arguments d) (c : Counts) : Positional :=
  ⟨c.unknowns, c.linear, c.nonlinear, c.linearRows, c.jacobianRows, c.hessianRows,
    a.linear.toArray, a.lower.toArray, a.upper.toArray, .constraints, .objective,
    a.status, a.iterations, a.state.toArray, a.values.toArray, a.jacobian.toArray,
    a.multipliers.toArray, a.objective, a.gradient.toArray, a.hessian.toArray, a.point.toArray,
    a.integerWork.toArray, .ofCount a.integerWork.toArray.size,
    a.realWork.toArray, .ofCount a.realWork.toArray.size⟩

namespace Positional

/-- The buffer that starts at `v` and is said to have `length` entries, if `k` are wanted. -/
def buffer? {α : Type} (v : Array α) (length k : Nat) : Option (Vector α k) :=
  if h : length = k ∧ k ≤ v.size then some ⟨v.extract 0 k, by simp; omega⟩ else none

def counts (p : Positional) : Counts where
  unknowns := p.unknowns
  linear := p.linear
  nonlinear := p.nonlinear
  linearRows := p.linearRows
  jacobianRows := p.jacobianRows
  hessianRows := p.hessianRows
  integerWork := p.integerWorkLength
  realWork := p.realWorkLength

/-- The arguments with each buffer as long as the integers say. -/
def buffers? (p : Positional) (d : Dimensions) : Option (Arguments d) := do
  let n := p.unknowns.toCount
  let bounds := n + p.linear.toCount + p.nonlinear.toCount
  let rows := p.jacobianRows.toCount
  return {
    linear := ← buffer? p.coefficients (p.linearRows.toCount * n) _
    lower := ← buffer? p.lower bounds _
    upper := ← buffer? p.upper bounds _
    status := p.status
    iterations := p.iterations
    state := ← buffer? p.state bounds _
    values := ← buffer? p.values rows _
    jacobian := ← buffer? p.jacobian (rows * n) _
    multipliers := ← buffer? p.multipliers bounds _
    objective := p.objective
    gradient := ← buffer? p.gradient n _
    hessian := ← buffer? p.hessian (p.hessianRows.toCount * n) _
    point := ← buffer? p.point n _
    integerWork := ← buffer? p.integerWork p.integerWorkLength.toCount _
    realWork := ← buffer? p.realWork p.realWorkLength.toCount _ }

/-- The arguments, if the callbacks are in place. -/
def arguments? (p : Positional) (d : Dimensions) : Option (Arguments d) :=
  if p.constraintCallback = .constraints ∧ p.objectiveCallback = .objective then p.buffers? d
  else none

/-- The positions after a routine has left `a` in the buffers that stand there. -/
def overwritten {d : Dimensions} (p : Positional) (a : Arguments d) : Positional :=
  { p with
    coefficients := (overwrite p.coefficients a.linear).toArray
    lower := (overwrite p.lower a.lower).toArray
    upper := (overwrite p.upper a.upper).toArray
    status := a.status
    iterations := a.iterations
    state := (overwrite p.state a.state).toArray
    values := (overwrite p.values a.values).toArray
    jacobian := (overwrite p.jacobian a.jacobian).toArray
    multipliers := (overwrite p.multipliers a.multipliers).toArray
    objective := a.objective
    gradient := (overwrite p.gradient a.gradient).toArray
    hessian := (overwrite p.hessian a.hessian).toArray
    point := (overwrite p.point a.point).toArray
    integerWork := (overwrite p.integerWork a.integerWork).toArray
    realWork := (overwrite p.realWork a.realWork).toArray }

/-- The caller's buffer `own` with the entries that now stand in its position. -/
def refreshed {α : Type} {k : Nat} (own : Vector α k) (v : Array α) : Vector α k :=
  Vector.ofFn fun i => v.getD i.val (own.get i)

end Positional

open Positional (refreshed) in
/-- What the caller finds in its own buffers when the library has returned. -/
def Arguments.found {d : Dimensions} (a : Arguments d) (p : Positional) : Arguments d where
  linear := refreshed a.linear p.coefficients
  lower := refreshed a.lower p.lower
  upper := refreshed a.upper p.upper
  status := p.status
  iterations := p.iterations
  state := refreshed a.state p.state
  values := refreshed a.values p.values
  jacobian := refreshed a.jacobian p.jacobian
  multipliers := refreshed a.multipliers p.multipliers
  objective := p.objective
  gradient := refreshed a.gradient p.gradient
  hessian := refreshed a.hessian p.hessian
  point := refreshed a.point p.point
  integerWork := refreshed a.integerWork p.integerWork
  realWork := refreshed a.realWork p.realWork

/-- A text with no more bytes than an integer can count, as every text in memory. -/
def Storable (text : String) : Prop := text.toUTF8.size ≤ Integer.largest

instance (text : String) : Decidable (Storable text) :=
  inferInstanceAs (Decidable (text.toUTF8.size ≤ Integer.largest))

/-- The text whose first `length` bytes are passed. -/
def textOf? (bytes : ByteArray) (length : Integer) : Option String :=
  String.fromUTF8? (bytes.extract 0 length.toCount)

/-! ## Mounts -/

/-- A routine that is called directly or through the linked convention. -/
inductive Mount (ρ : Type) where
  | direct (r : ρ)
  | linked (r : ρ)

namespace Mount

variable {ω ρ ρ' : Type}

def routine : Mount ρ → ρ
  | direct r | linked r => r

/-- The same mount with another routine. -/
def map (f : ρ → ρ') : Mount ρ → Mount ρ'
  | direct r => direct (f r)
  | linked r => linked (f r)

instance [Routine ω ρ] : Routine ω (Mount ρ) where
  configure
    | direct r, line => (Routine.configure r line).map direct id
    | linked r, line =>
      match textOf? line.toUTF8 (.ofCount line.toUTF8.size) with
      | some text => (Routine.configure r text).map linked id
      | none => (linked r, [])
  solve {d} m t c a :=
    match m with
    | direct r => (Routine.solve r t c a).map (Departure.map direct)
    | linked r =>
      let p := a.positional c
      match p.arguments? d with
      | some b => (Routine.solve r t p.counts b).map fun left =>
          ⟨linked left.routine, a.found (p.overwritten left.arguments), left.panic⟩
      | none => .done ⟨m, a, some "buffers are shorter than declared"⟩

end Mount

/-! ## Nothing is lost -/

theorem Dimensions.bounds_of_counts (d : Dimensions) :
    d.counts.unknowns.toCount = d.unknowns ∧ d.counts.linear.toCount = d.linear
      ∧ d.counts.nonlinear.toCount = d.nonlinear := by
  have := d.bounds_le
  unfold boundCount at this
  refine ⟨?_, ?_, ?_⟩ <;> exact Integer.toCount_ofCount (by omega)

theorem Dimensions.rows_of_counts (d : Dimensions) :
    d.counts.linearRows.toCount = d.linearRows ∧ d.counts.jacobianRows.toCount = d.jacobianRows
      ∧ d.counts.hessianRows.toCount = d.unknowns := by
  have := d.unknowns_pos
  have := d.bounds_le
  unfold boundCount at this
  have hl : d.linearRows = max d.linear 1 := rfl
  have hj : d.jacobianRows = max d.nonlinear 1 := rfl
  refine ⟨?_, ?_, ?_⟩ <;> exact Integer.toCount_ofCount (by omega)

namespace Positional

theorem buffer?_toArray {α : Type} {k : Nat} (v : Vector α k) :
    Positional.buffer? v.toArray k k = some v := by
  simp [Positional.buffer?]

theorem refreshed_overwrite {α : Type} {k : Nat} (v w : Vector α k) :
    refreshed v (overwrite v.toArray w).toArray = w := by
  ext i hi
  simp [refreshed, overwrite]

end Positional

/-- A linked library receives what was passed. -/
theorem arguments?_positional {d : Dimensions} (a : Arguments d) :
    (a.positional d.counts).arguments? d = some a := by
  obtain ⟨h₁, h₂, h₃⟩ := d.bounds_of_counts
  obtain ⟨h₄, h₅, h₆⟩ := d.rows_of_counts
  have hi : (Integer.ofCount d.integerWork).toCount = d.integerWork :=
    Integer.toCount_ofCount d.integerWork_le
  have hr : (Integer.ofCount d.realWork).toCount = d.realWork :=
    Integer.toCount_ofCount d.realWork_le
  have hb : d.unknowns + d.linear + d.nonlinear = d.bounds := rfl
  rw [Positional.arguments?, if_pos ⟨rfl, rfl⟩]
  simp only [Positional.buffers?, Arguments.positional, Vector.size_toArray, h₁, h₂, h₃, h₄, h₅,
    h₆, hi, hr, hb, Positional.buffer?_toArray]
  rfl

/-- A linked library is told the sizes that the routine has to be told. -/
theorem counts_positional {d : Dimensions} (a : Arguments d) :
    (a.positional d.counts).counts = d.counts := by
  simp only [Positional.counts, Arguments.positional, Vector.size_toArray]
  rfl

/-- The caller finds what was left. -/
theorem found_overwritten {d : Dimensions} (a left : Arguments d) (c : Counts) :
    a.found ((a.positional c).overwritten left) = left := by
  simp only [Arguments.found, Positional.overwritten, Arguments.positional,
    Positional.refreshed_overwrite]

/-- A storable text goes through. -/
theorem textOf?_toUTF8 {line : String} (h : Storable line) :
    textOf? line.toUTF8 (.ofCount line.toUTF8.size) = some line := by
  unfold textOf? String.fromUTF8?
  rw [Integer.toCount_ofCount h, ByteArray.extract_zero_size]
  exact dif_pos line.isValidUTF8

end NonlinearFit
