import NonlinearFit.Flight

/-!
# Routines

A routine is what minimizes the objective. A problem hands it `Arguments`, flat buffers that the
routine may overwrite in place, and two callbacks. It answers by what it leaves in the arguments.

**Callbacks.** A routine calls back with counts and buffers of its own choice and gets the buffers
back as the callback left them. A count may be negative and then counts nothing, and an empty
buffer stands for one that was not passed. Callbacks may come from any thread.

**Endings.** A routine returns or panics. In both cases the arguments stay as it left them.
-/

namespace NonlinearFit

/-- The sizes that a routine is told. -/
structure Counts where
  unknowns : Integer
  linear : Integer
  nonlinear : Integer
  linearRows : Integer
  jacobianRows : Integer
  hessianRows : Integer
  integerWork : Integer
  realWork : Integer
deriving DecidableEq, Repr

/-- The sizes of a problem as integers of the routine. -/
def Dimensions.counts (d : Dimensions) : Counts where
  unknowns := .ofCount d.unknowns
  linear := .ofCount d.linear
  nonlinear := .ofCount d.nonlinear
  linearRows := .ofCount d.linearRows
  jacobianRows := .ofCount d.jacobianRows
  hessianRows := .ofCount d.unknowns
  integerWork := .ofCount d.integerWork
  realWork := .ofCount d.realWork

/-- The buffers of one call, matrices in column-major order. -/
@[ext]
structure Arguments (d : Dimensions) where
  linear : Vector Float (d.linearRows * d.unknowns)
  lower : Vector Float d.bounds
  upper : Vector Float d.bounds
  status : Integer
  iterations : Integer
  state : Vector Integer d.bounds
  values : Vector Float d.jacobianRows
  jacobian : Vector Float (d.jacobianRows * d.unknowns)
  multipliers : Vector Float d.bounds
  objective : Float
  gradient : Vector Float d.unknowns
  hessian : Vector Float (d.unknowns * d.unknowns)
  point : Vector Float d.unknowns
  integerWork : Vector Integer d.integerWork
  realWork : Vector Float d.realWork

/-! ## Calling back -/

/-- A call of the objective callback. -/
structure ObjectiveCall where
  thread : Thread
  mode : Integer
  unknowns : Integer
  nstate : Integer
  point : Array Float
  value : Float
  gradient : Array Float

/-- What a routine has after the objective callback returned. -/
structure ObjectiveReturn (c : ObjectiveCall) where
  status : Integer
  mode : Integer
  value : Float
  gradient : Vector Float c.gradient.size

/-- A call of the constraint callback. Columns of the Jacobian start `stride` places apart. -/
structure ConstraintCall where
  thread : Thread
  mode : Integer
  nonlinear : Integer
  unknowns : Integer
  stride : Integer
  nstate : Integer
  needed : Array Integer
  point : Array Float
  values : Array Float
  jacobian : Array Float

/-- What a routine has after the constraint callback returned. -/
structure ConstraintReturn (c : ConstraintCall) where
  status : Integer
  mode : Integer
  values : Vector Float c.values.size
  jacobian : Vector Float c.jacobian.size

/-- What a routine may ask during a solve. -/
inductive Query (ω : Type) where
  | inquiry (q : Inquiry ω)
  | objective (c : ObjectiveCall)
  | constraints (c : ConstraintCall)

/-- The type of a query's answer. -/
def Query.Answer {ω : Type} : Query ω → Type
  | inquiry q => q.Answer
  | objective c => ObjectiveReturn c
  | constraints c => ConstraintReturn c

/-- A program of a routine. -/
abbrev Calling (ω α : Type) := Program (Query ω) Query.Answer α

/-! ## Routines -/

/-- How a routine ends: the routine afterwards, the arguments as it left them, and the payload of
its panic if it panicked. -/
structure Departure (d : Dimensions) (ρ : Type) where
  routine : ρ
  arguments : Arguments d
  panic : Option String

/-- The departure with which a routine's work ends. -/
def Departure.ofEnding {d : Dimensions} {ρ : Type} (routine : ρ) (arguments : Arguments d)
    (ending : Except String Unit) : Departure d ρ where
  routine
  arguments
  panic := match ending with
    | .ok () => none
    | .error payload => some payload

/-- The departure with the routine seen through `f`. -/
def Departure.map {d : Dimensions} {ρ ρ' : Type} (f : ρ → ρ') (r : Departure d ρ) :
    Departure d ρ' :=
  { r with routine := f r.routine }

/-- Types whose values take option lines and solve problems, and may take notes of type `ω`. Taking
an option line is not a program: it asks nothing, ends at once, and does not panic. -/
class Routine (ω ρ : Type) where
  configure : ρ → String → ρ × List ω
  solve : {d : Dimensions} → ρ → Thread → Counts → Arguments d → Calling ω (Departure d ρ)

end NonlinearFit
