import NonlinearFit.Decimal.Layout
import NonlinearFit.OptionLine
import NonlinearFit.Routine

/-!
# Projected gradient descent

A small routine that minimizes the objective over the bounds of the variables.

**An iteration** goes from the current point against the gradient and projects onto the bounds,
with step sizes `1`, `1/2`, `1/4`, … until the objective decreases enough. The search gives up when
the step size falls below `1e-20`, so there are finitely many of them (`stepSizes`).

**The end.** A point is optimal when the projected unit step moves no variable by more than the
tolerance. Otherwise the routine ends at the iteration limit, when a search gives up, or with the
mode of an evaluator that asks it to stop.

**General constraints** are evaluated once at the final point and reported, never enforced.
-/

namespace NonlinearFit

/-- A gradient descent with its settings and what it remembers. -/
structure GradientDescent where
  maxIterations : Integer := 1000
  tolerance : Float := 1e-10
  /-- The option lines received. -/
  options : List String := []
  /-- The Jacobian after the last constraint callback, in column-major order. -/
  lastJacobian : Array Float := #[]

/-! ## Bounds of the variables -/

/-- The bounds of `n` variables. -/
structure Box (n : Nat) where
  lower : Vector Float n
  upper : Vector Float n

/-- A float moved into an interval. -/
def clamp (lower upper x : Float) : Float :=
  let y := if x < lower then lower else x
  if upper < y then upper else y

namespace Box

variable {n : Nat}

/-- The first variable without a number between its bounds. -/
def crossed? (b : Box n) : Option (Fin n) :=
  (List.finRange n).find? fun i => !(b.lower[i] ≤ b.upper[i])

/-- The nearest point within the bounds. -/
def project (b : Box n) (x : Vector Float n) : Vector Float n :=
  Vector.ofFn fun i => clamp b.lower[i] b.upper[i] x[i]

/-- The text of the panic at crossed bounds. -/
def crossedMessage (lower upper : Float) : String :=
  "min > max, or either was NaN. min = " ++ Layout.general.write lower ++ ", max = "
    ++ Layout.general.write upper

end Box

/-! ## Arithmetic -/

/-- The larger of two floats; a NaN loses against any other float. -/
def maxNumber (a b : Float) : Float :=
  if a.isNaN then b else if b.isNaN then a else if a < b then b else a

namespace GradientDescent

variable {ω : Type} {n : Nat}

/-- A point with the objective's value and gradient there. -/
structure Iterate (n : Nat) where
  point : Vector Float n
  value : Float
  gradient : Vector Float n

/-- How far the projected unit step moves a variable, at most. -/
def stationarity (b : Box n) (p : Iterate n) : Float :=
  (List.finRange n).foldl (fun m i =>
    maxNumber m (clamp b.lower[i] b.upper[i] (p.point[i] - p.gradient[i]) - p.point[i]).abs) 0.0

/-- The projected point after a step of the given size. -/
def trial (b : Box n) (p : Iterate n) (step : Float) : Vector Float n :=
  b.project (Vector.ofFn fun i => p.point[i] - step * p.gradient[i])

/-- The decrease that the gradient promises between two points. -/
def promised (p : Iterate n) (x : Vector Float n) : Float :=
  (List.finRange n).foldl (fun s i => s + p.gradient[i] * (p.point[i] - x[i])) 0.0

/-- Whether the objective decreased enough. -/
def sufficient (p : Iterate n) (x : Vector Float n) (value : Float) : Bool :=
  value ≤ p.value - 1e-4 * promised p x

/-- Halves a step size until it falls below `1e-20`, at most `fuel` times. -/
def halvings : Nat → Float → List Float
  | 0, _ => []
  | fuel + 1, step => if step < 1e-20 then [] else step :: halvings fuel (step * 0.5)

/-- The step sizes of a search. -/
def stepSizes : List Float := halvings 100 1.0

/-! ## Evaluation -/

/-- Evaluates value and gradient. The gradient is written over `buffer`; a negative mode is an
evaluator's wish to stop. -/
def evaluate (t : Thread) (unknowns nstate : Integer) (x buffer : Vector Float n) :
    Calling ω (Except Integer (Iterate n)) :=
  let call : ObjectiveCall := {
    thread := t
    mode := 2
    unknowns
    nstate
    point := x.toArray
    value := 0.0
    gradient := buffer.toArray }
  .ask (.objective call) fun (r : ObjectiveReturn call) =>
    .done (if r.mode < 0 then .error r.mode
      else .ok ⟨x, r.value, r.gradient.cast buffer.size_toArray⟩)

/-! ## The search along the gradient -/

/-- How a search ends. -/
inductive Search (n : Nat) where
  | accepted (p : Iterate n)
  | stopped (mode : Integer)
  | exhausted

/-- Tries step sizes until the objective decreases enough. Gradients of trial points are written
over `buffer`. -/
def search (t : Thread) (unknowns : Integer) (b : Box n) (p : Iterate n) :
    List Float → Vector Float n → Calling ω (Search n)
  | [], _ => .done .exhausted
  | step :: steps, buffer => do
    match ← evaluate t unknowns 0 (trial b p step) buffer with
    | .error mode => return .stopped mode
    | .ok q =>
      if sufficient p q.point q.value then return .accepted q
      else search t unknowns b p steps q.gradient

/-- How a descent ends: its status, the number of iterations, and the last accepted point. -/
structure Descended (n : Nat) where
  status : Integer
  iterations : Integer
  last : Iterate n

def statusOptimal : Integer := 0

def statusIterationLimit : Integer := 4

def statusCannotImprove : Integer := 6

/-- Iterates at most `left` times. Gradients of trial points are written over `buffer`. -/
def descend (t : Thread) (unknowns : Integer) (b : Box n) (tolerance : Float) :
    (left : Nat) → (done : Integer) → Iterate n → (buffer : Vector Float n) →
    Calling ω (Descended n)
  | left, done, p, buffer =>
    if stationarity b p ≤ tolerance then return ⟨statusOptimal, done, p⟩
    else match left with
      | 0 => return ⟨statusIterationLimit, done, p⟩
      | left + 1 => do
        match ← search t unknowns b p stepSizes buffer with
        | .accepted q => descend t unknowns b tolerance left (done + 1) q q.gradient
        | .stopped mode => return ⟨mode, done + 1, p⟩
        | .exhausted => return ⟨statusCannotImprove, done + 1, p⟩

/-! ## The routine -/

variable {d : Dimensions}

/-- The bounds of the variables among all bounds. -/
def box (a : Arguments d) : Box d.unknowns where
  lower := Vector.ofFn fun i => a.lower[i.castLE d.unknowns_le_bounds]
  upper := Vector.ofFn fun i => a.upper[i.castLE d.unknowns_le_bounds]

/-- A vector over the bounds with its entries for the variables replaced. -/
def withVariables {α : Type} (v : Vector α d.bounds) (f : Fin d.unknowns → α) :
    Vector α d.bounds :=
  v.mapIdx fun i w => if h : i < d.unknowns then f ⟨i, h⟩ else w

/-- The identity matrix. -/
def identity (n : Nat) : Vector Float (n * n) :=
  Vector.ofFn fun k => if k.val % (n + 1) = 0 then 1.0 else 0.0

/-- Reports the end of a descent. Multipliers are the gradient on active bounds and zero
elsewhere. -/
def report (a : Arguments d) (e : Descended d.unknowns) : Arguments d :=
  let x := e.last.point
  let atLower (i : Fin d.unknowns) : Bool := x[i] ≤ (box a).lower[i]
  let atUpper (i : Fin d.unknowns) : Bool := (box a).upper[i] ≤ x[i]
  { a with
    point := x
    gradient := e.last.gradient
    objective := e.last.value
    iterations := e.iterations
    status := e.status
    multipliers := withVariables a.multipliers fun i =>
      if atLower i || atUpper i then e.last.gradient[i] else 0.0
    state := withVariables a.state fun i => if atLower i then 1 else if atUpper i then 2 else 0
    hessian := identity d.unknowns }

/-- Evaluates the general constraints at the final point. -/
def evaluateConstraints (r : GradientDescent) (t : Thread) (c : Counts) (a : Arguments d) :
    Calling ω (Departure d GradientDescent) :=
  let call : ConstraintCall := {
    thread := t
    mode := 2
    nonlinear := c.nonlinear
    unknowns := c.unknowns
    stride := c.jacobianRows
    nstate := 0
    needed := Array.replicate d.jacobianRows 1
    point := a.point.toArray
    values := a.values.toArray
    jacobian := a.jacobian.toArray }
  .ask (.constraints call) fun (v : ConstraintReturn call) =>
    .done ⟨{ r with lastJacobian := v.jacobian.toArray },
      { a with
        status := if v.mode < 0 then v.mode else a.status
        values := v.values.cast a.values.size_toArray
        jacobian := v.jacobian.cast a.jacobian.size_toArray },
      none⟩

/-- Minimizes the objective from the given point. -/
def solve (r : GradientDescent) (t : Thread) (c : Counts) (a : Arguments d) :
    Calling ω (Departure d GradientDescent) :=
  let b := box a
  match b.crossed? with
  | some i =>
    let point := a.point.mapIdx fun j x =>
      if h : j < d.unknowns then if j < i.val then clamp b.lower[j] b.upper[j] x else x else x
    .done ⟨r, { a with point }, some (Box.crossedMessage b.lower[i] b.upper[i])⟩
  | none => do
    let a := { a with point := b.project a.point }
    let zeros : Vector Float d.unknowns := .replicate _ 0.0
    match ← evaluate t c.unknowns 1 a.point zeros with
    | .error mode => return ⟨r, { a with status := mode }, none⟩
    | .ok first =>
      let e ← descend t c.unknowns b r.tolerance r.maxIterations.toCount 0 first zeros
      let a := report a e
      if 0 < c.nonlinear ∧ 0 ≤ e.status then evaluateConstraints r t c a
      else return ⟨r, a, none⟩

/-- Keeps an option line, and obeys it if it sets the iteration limit. -/
def configure (r : GradientDescent) (line : String) : GradientDescent :=
  { r with
    options := r.options ++ [line]
    maxIterations := (OptionLine.integer? "major iteration limit" line).getD r.maxIterations }

instance : Routine ω GradientDescent where
  configure r line := (r.configure line, [])
  solve r t c a := r.solve t c a

end GradientDescent

end NonlinearFit
