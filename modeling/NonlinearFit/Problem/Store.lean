import NonlinearFit.Refusal
import NonlinearFit.Problem.Exchange
import NonlinearFit.Routine
import NonlinearFit.Status

/-!
# The data of a problem

A `Store d` holds every buffer of a problem with dimensions `d`.

**Three ways to the routine.** Linear matrix, Jacobian, Hessian factor, multipliers and point are
exchanged or copied for each call. Bounds, state, constraint values, objective, gradient and the
workspaces are lent as they are, so a routine overwrites them in place.

**A call.** `lend` prepares the copies, `arguments` is what the routine receives, `takeBack` puts
what it left into the buffers, and `collect` makes the exchanged ones readable.
-/

namespace NonlinearFit

/-- The buffers of a problem. -/
@[ext]
structure Store (d : Dimensions) where
  lower : Vector Float d.bounds
  upper : Vector Float d.bounds
  linear : Matrix d.linearRows d.unknowns
  /-- The copy of the linear matrix that the routine works on. -/
  linearLent : ColumnMajor d.linearRows d.unknowns
  jacobian : ExchangedMatrix d.jacobianRows d.unknowns
  multipliers : ExchangedVector d.bounds
  hessian : ExchangedMatrix d.unknowns d.unknowns
  point : ExchangedVector d.unknowns
  state : Vector Integer d.bounds
  values : Vector Float d.jacobianRows
  objective : Float
  gradient : Vector Float d.unknowns
  integerWork : Vector Integer d.integerWork
  realWork : Vector Float d.realWork
  /-- The status of the last solve whose routine returned. -/
  status : Option Status
  iterations : Integer

namespace Store

/-- The bound that stands for "unbounded" in a new problem. -/
def unbounded : Float := 1e10

/-- The buffers of a new problem: no bounds, and zero everywhere else. -/
def new (d : Dimensions) : Store d where
  lower := .replicate _ (-unbounded)
  upper := .replicate _ unbounded
  linear := .zeros ..
  linearLent := .zeros ..
  jacobian := .zeros ..
  multipliers := .zeros ..
  hessian := .zeros ..
  point := .zeros ..
  state := .replicate _ 0
  values := .replicate _ 0.0
  objective := 0.0
  gradient := .replicate _ 0.0
  integerWork := .replicate _ 0
  realWork := .replicate _ 0.0
  status := none
  iterations := 0

variable {d : Dimensions} (s : Store d)

/-! ## A call of the routine -/

/-- Prepares a call that starts from `x₀`. -/
def lend (x₀ : Vector Float d.unknowns) : Except LayoutMismatch (Store d) := do
  return { s with
    point := { s.point with given := x₀ }.lend
    linearLent := ← s.linearLent.load s.linear
    jacobian := ← s.jacobian.lend
    multipliers := s.multipliers.lend
    hessian := ← s.hessian.lend }

/-- What the routine receives. -/
def arguments : Arguments d where
  linear := s.linearLent.flat
  lower := s.lower
  upper := s.upper
  status := 0
  iterations := 0
  state := s.state
  values := s.values
  jacobian := s.jacobian.lent.flat
  multipliers := s.multipliers.lent
  objective := s.objective
  gradient := s.gradient
  hessian := s.hessian.lent.flat
  point := s.point.lent
  integerWork := s.integerWork
  realWork := s.realWork

/-- The buffers with what the routine left in them. -/
def takeBack (left : Arguments d) : Store d :=
  { s with
    lower := left.lower
    upper := left.upper
    linearLent := ⟨left.linear⟩
    jacobian.lent := ⟨left.jacobian⟩
    multipliers.lent := left.multipliers
    hessian.lent := ⟨left.hessian⟩
    point.lent := left.point
    state := left.state
    values := left.values
    objective := left.objective
    gradient := left.gradient
    integerWork := left.integerWork
    realWork := left.realWork }

/-- Makes what the routine left readable, and keeps its status. -/
def collect (status : Status) (iterations : Integer) : Except LayoutMismatch (Store d) := do
  return { s with
    point := s.point.collect
    hessian := ← s.hessian.collect
    multipliers := s.multipliers.collect
    jacobian := ← s.jacobian.collect
    status := some status
    iterations }

theorem lend_eq (x₀ : Vector Float d.unknowns) :
    s.lend x₀ = .ok { s with
      point := ⟨x₀, x₀, s.point.received⟩
      linearLent := .ofMatrix s.linear
      jacobian.lent := .ofMatrix s.jacobian.given
      multipliers.lent := s.multipliers.given
      hessian.lent := .ofMatrix s.hessian.given } := by
  simp [lend, pure, Except.pure, bind, Except.bind, ExchangedVector.lend]

theorem collect_eq (status : Status) (iterations : Integer) :
    s.collect status iterations = .ok { s with
      point.received := s.point.lent
      hessian.received := s.hessian.lent.toMatrix
      multipliers.received := s.multipliers.lent
      jacobian.received := s.jacobian.lent.toMatrix
      status := some status
      iterations } := by
  simp [collect, pure, Except.pure, bind, Except.bind, ExchangedVector.collect]

/-! ## Input -/

/-- Data that has to have a certain length. -/
def ofSize {α : Type} (data : String) (k : Nat) (v : Array α) : Except Refusal (Vector α k) :=
  if h : v.size = k then .ok ⟨v, h⟩ else .error (.lengthMismatch data k v.size)

/-- A matrix that has to have a certain shape. -/
def ofShape (data : String) (rows cols : Nat) {r c : Nat} (m : Matrix r c) :
    Except Refusal (Matrix rows cols) :=
  if h : (r, c) = (rows, cols) then .ok ((Prod.mk.inj h).1 ▸ (Prod.mk.inj h).2 ▸ m)
  else .error (.shapeMismatch data (rows, cols) (r, c))

/-- Replaces all bounds. Bounds are those of the variables, then those of the linear and of the
nonlinear constraints. -/
def setBounds (lower upper : Array Float) : Except Refusal (Store d) := do
  let lower ← ofSize "lower" d.bounds lower
  let upper ← ofSize "upper" d.bounds upper
  return { s with lower, upper }

def setLower (lower : Array Float) : Except Refusal (Store d) := do
  return { s with lower := ← ofSize "lower" d.bounds lower }

def setUpper (upper : Array Float) : Except Refusal (Store d) := do
  return { s with upper := ← ofSize "upper" d.bounds upper }

/-- Replaces the bounds of one variable or constraint. -/
def setBound (i : Nat) (lower upper : Float) : Except Refusal (Store d) :=
  if h : i < d.bounds then .ok { s with lower := s.lower.set i lower, upper := s.upper.set i upper }
  else .error (.boundIndex i d.bounds)

def setLinear {r c : Nat} (m : Matrix r c) : Except Refusal (Store d) := do
  let m ← ofShape "linear matrix" d.linear d.unknowns m
  return { s with linear := s.linear.setTop m }

/-- Replaces the Jacobian that the next solve starts from. -/
def setJacobian {r c : Nat} (m : Matrix r c) : Except Refusal (Store d) := do
  let m ← ofShape "jacobian template" d.nonlinear d.unknowns m
  return { s with jacobian.given := s.jacobian.given.setTop m }

/-- Replaces the multipliers that the next solve starts from. -/
def setMultipliers (v : Array Float) : Except Refusal (Store d) := do
  return { s with multipliers.given := ← ofSize "multipliers" d.bounds v }

/-- Replaces the Hessian factor that the next solve starts from. -/
def setHessian {r c : Nat} (m : Matrix r c) : Except Refusal (Store d) := do
  return { s with hessian.given := ← ofShape "hessian" d.unknowns d.unknowns m }

def setState (v : Array Integer) : Except Refusal (Store d) := do
  return { s with state := ← ofSize "state" d.bounds v }

/-! ## Between solves -/

/-- Gives multipliers, Jacobian and Hessian factor of the last solve to the next one. -/
def warmStart : Store d :=
  { s with
    multipliers := s.multipliers.carry
    jacobian := s.jacobian.carry
    hessian := s.hessian.carry }

/-- The linear constraint matrix, without padding. -/
def linearPart : Matrix d.linear d.unknowns := s.linear.top _ d.linear_le_linearRows

/-- The Jacobian that the next solve starts from, without padding. -/
def jacobianGiven : Matrix d.nonlinear d.unknowns :=
  s.jacobian.given.top _ d.nonlinear_le_jacobianRows

/-- The Jacobian of the last solve, without padding. -/
def jacobianReceived : Matrix d.nonlinear d.unknowns :=
  s.jacobian.received.top _ d.nonlinear_le_jacobianRows

/-- The constraint values, without padding. -/
def nonlinearValues : Vector Float d.nonlinear :=
  Vector.ofFn fun i => s.values[i.castLE d.nonlinear_le_jacobianRows]

end Store

end NonlinearFit
