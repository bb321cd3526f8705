import NonlinearFit.GradientDescent
import NonlinearFit.Linkage
import NonlinearFit.Problem.Store

/-!
# Scripts

Evaluators and routines whose behaviour is written down as lists of actions, one list for each
call. They exercise a problem in ways no real evaluator would, and they take notes of what they
see.

**Nesting.** A script may hold a problem of its own and attempt to solve it while it is at work
itself. Such an `InnerProblem` again has scripts for evaluator and routine.
-/

namespace NonlinearFit.Script

/-! ## Actions of evaluators -/

/-- Actions that every evaluator knows. -/
inductive Control where
  /-- Asks the routine to stop with a code. -/
  | stop (code : Integer)
  /-- Sets the status that the callback returns. -/
  | status (s : Integer)
  | panic (text : String)
  /-- Attempts to solve the inner problem, on a thread of its own if `elsewhere`. -/
  | nested (x₀ : Array Float) (elsewhere : Bool)

/-- Actions on an objective request. -/
inductive ObjectiveAction where
  /-- A weighted sum of squared distances from `centre`, with its gradient, as far as wanted. -/
  | quadratic (weights centre : Array Float)
  | value (v : Float)
  /-- The sum of the point's entries. -/
  | sum
  | gradientAt (i : Nat) (v : Float)
  | gradientFill (v : Float)
  | control (c : Control)

/-- Actions on a constraint request. -/
inductive ConstraintAction where
  | valueAt (i : Nat) (v : Float)
  /-- Values equal to the point, if wanted. -/
  | point
  /-- Squares of the point's entries, with their Jacobian, as far as wanted. -/
  | squares
  | entry (i j : Nat) (v : Float)
  /-- The entry in row `i` and column `j` becomes `10 i + j`. -/
  | pattern
  | scale (k : Float)
  /-- Fills the rows of the constraints that are needed. -/
  | fillNeeded (v : Float)
  | control (c : Control)

/-! ## Actions of routines -/

inductive RealBuffer where
  | linear
  | lower
  | upper
  | values
  | jacobian
  | multipliers
  | gradient
  | hessian
  | point
  | realWork

inductive IntegerBuffer where
  | state
  | integerWork

/-- What a routine passes for a buffer: its own, none, or another one. -/
inductive Passed (α : Type) where
  | own
  | absent
  | given (v : α)

/-- A call of the objective callback, with what differs from the routine's own arguments. -/
structure ObjectiveOrder where
  mode : Integer
  nstate : Integer
  unknowns : Passed Integer
  point : Passed (Array Float)
  gradient : Passed (Array Float)
  elsewhere : Bool

/-- A call of the constraint callback, with what differs from the routine's own arguments. -/
structure ConstraintOrder where
  mode : Integer
  nstate : Integer
  nonlinear : Passed Integer
  unknowns : Passed Integer
  stride : Passed Integer
  needed : Passed (Array Integer)
  point : Passed (Array Float)
  values : Passed (Array Float)
  jacobian : Passed (Array Float)
  elsewhere : Bool

/-- How the entries of a buffer change. -/
inductive Change (α : Type) where
  /-- Writes a list from a place on, as far as the buffer goes. -/
  | set (first : Nat) (v : Array α)
  | add (v : α)
  | fill (v : α)
  /-- Every entry becomes its index. -/
  | count

inductive RoutineAction where
  | objective (o : ObjectiveOrder)
  | constraints (o : ConstraintOrder)
  | status (v : Integer)
  | iterations (v : Integer)
  | value (v : Float)
  | reals (b : RealBuffer) (c : Change Float)
  | integers (b : IntegerBuffer) (c : Change Integer)
  | panic (text : String)
  | nested (x₀ : Array Float) (elsewhere : Bool)
  /-- Notes whether a solve is in flight. -/
  | progress

/-! ## Scripts -/

/-- An evaluator that runs one list of actions per call, the last one repeating. -/
structure EvaluatorScript (ι : Type) where
  objective : List (List ObjectiveAction) := []
  constraints : List (List ConstraintAction) := []
  objectiveCalls : Nat := 0
  constraintCalls : Nat := 0
  inner : Option ι := none

/-- A routine that runs one list of actions per solve, the last one repeating. -/
structure RoutineScript (ι : Type) where
  script : List (List RoutineAction) := []
  calls : Nat := 0
  /-- The option lines received. -/
  options : List String := []
  inner : Option ι := none

/-- A routine of a scripted problem. -/
inductive AnyRoutine (ι : Type) where
  | script (r : RoutineScript ι)
  | descent (r : GradientDescent)

/-- A routine that notes what it is given. -/
structure Recorded (ρ : Type) where
  routine : ρ

/-- A problem inside a script, with scripts of its own. -/
inductive InnerProblem where
  | mk (dims : Dimensions) (store : Store dims) (evaluator : Held (EvaluatorScript InnerProblem))
    (routine : Held (Mount (Recorded (AnyRoutine InnerProblem))))

def InnerProblem.dims : InnerProblem → Dimensions
  | mk d .. => d

/-- The evaluator of a scripted problem. -/
abbrev ScriptEvaluator := Held (EvaluatorScript InnerProblem)

/-- The routine of a scripted problem. -/
abbrev ScriptRoutine := Held (Mount (Recorded (AnyRoutine InnerProblem)))

/-- The script for call number `k`. -/
def pick {α : Type} (scripts : List (List α)) (k : Nat) : List α :=
  scripts.getD (min k (scripts.length - 1)) []

/-! ## Notes -/

/-- What scripts note. -/
inductive Note where
  /-- The routine was called with these arguments. -/
  | called (c : Counts) {d : Dimensions} (a : Arguments d)
  | option (line : String)
  | objective (r : ObjectiveRequest) (inProgress : Bool)
  | constraints (r : ConstraintRequest) (inProgress : Bool)
  /-- The objective callback returned; a gradient buffer that was not passed is missing. -/
  | objectiveReturned (status mode : Integer) (value : Float) (gradient : Option (Array Float))
  | constraintsReturned (status mode : Integer) (values jacobian : Option (Array Float))
  | nested (e : Refusal) (inner : InnerProblem)
  | inProgress (b : Bool)

end NonlinearFit.Script
