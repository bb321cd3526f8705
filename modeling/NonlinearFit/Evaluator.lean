import NonlinearFit.Flight
import NonlinearFit.Matrix.Basic

/-!
# Evaluators

An evaluator computes the objective and the nonlinear constraints of a problem. The routine asks
for them through requests, which an evaluator answers by writing into the buffers it is given.

**Requests.** A request says at which point and what is wanted: `mode` 0 asks for values, 1 for
derivatives and 2 for both. Its buffers hold what the routine left in them, so what an evaluator
does not write keeps its value.

**Replies.** The written buffers have the sizes of the given ones by their types. A reply ends
with a status or with a panic, and in both cases whatever was written before stays written. To stop
the routine an evaluator sets a negative mode (`requestStop`); any other code is a panic
(`requestStop_eq_raise`).
-/

namespace NonlinearFit

/-! ## Modes -/

def asksValue (mode : Integer) : Bool := mode == 0 || mode == 2

def asksDerivative (mode : Integer) : Bool := mode == 1 || mode == 2

/-- The mode that asks the routine to stop with `code`. Only negative codes stop it. -/
def stopMode (code : Integer) : Except String Integer :=
  if code < 0 then .ok code else .error "stop codes are negative"

/-! ## The objective -/

/-- A request to evaluate the objective. -/
structure ObjectiveRequest where
  mode : Integer
  /-- 1 at the first request of a solve. -/
  nstate : Integer
  point : Array Float
  value : Float
  gradient : Array Float

/-- The first request of a solve carries the number 1. -/
def ObjectiveRequest.isFirst (r : ObjectiveRequest) : Bool := r.nstate == 1

/-- What an evaluator leaves in the buffers of an objective request. -/
@[ext]
structure ObjectiveOutput (r : ObjectiveRequest) where
  mode : Integer
  value : Float
  gradient : Vector Float r.gradient.size

def ObjectiveRequest.untouched (r : ObjectiveRequest) : ObjectiveOutput r where
  mode := r.mode
  value := r.value
  gradient := ⟨r.gradient, rfl⟩

/-! ## The constraints -/

/-- A request to evaluate `rows` nonlinear constraints in `cols` variables. -/
structure ConstraintRequest where
  rows : Nat
  cols : Nat
  mode : Integer
  /-- 1 at the first request of a solve. -/
  nstate : Integer
  /-- A positive entry for each constraint that is needed. -/
  needed : Array Integer
  point : Array Float
  values : Array Float
  jacobian : Matrix rows cols

namespace ConstraintRequest

def isFirst (r : ConstraintRequest) : Bool := r.nstate == 1

/-- Whether constraint `i` is needed. -/
def needs (r : ConstraintRequest) (i : Nat) : Bool :=
  match r.needed[i]? with
  | some flag => decide (0 < flag)
  | none => false

end ConstraintRequest

/-- What an evaluator leaves in the buffers of a constraint request. -/
@[ext]
structure ConstraintOutput (r : ConstraintRequest) where
  mode : Integer
  values : Vector Float r.values.size
  jacobian : Matrix r.rows r.cols

def ConstraintRequest.untouched (r : ConstraintRequest) : ConstraintOutput r where
  mode := r.mode
  values := ⟨r.values, rfl⟩
  jacobian := r.jacobian

/-! ## Evaluators -/

/-- Asks the routine to stop with `code`, by a mode that `setMode` writes into the buffers `o`. The
status stays. -/
def requestStop {ω Output : Type} (setMode : Output → Integer → Output) (code : Integer)
    (o : Output) (status : Integer) : Inquiring ω (Output × Except String Integer) :=
  match stopMode code with
  | .ok mode => .done (setMode o mode, .ok status)
  | .error payload => .raise payload o

/-- **A stop code that is not negative is a panic.** -/
theorem requestStop_eq_raise {ω Output : Type} {code : Integer} (h : 0 ≤ code)
    (setMode : Output → Integer → Output) (o : Output) (status : Integer) :
    requestStop (ω := ω) setMode code o status = .raise "stop codes are negative" o := by
  have hmode : stopMode code = .error "stop codes are negative" := if_neg (Int64.not_lt.mpr h)
  rw [requestStop, hmode]

/-- An evaluator's answer: the evaluator afterwards, what it wrote, and its status or the payload
of its panic. -/
structure Reply (ε Output : Type) where
  evaluator : ε
  output : Output
  ending : Except String Integer

/-- The reply with the evaluator seen through `f`. -/
def Reply.map {ε ε' Output : Type} (f : ε → ε') (r : Reply ε Output) : Reply ε' Output :=
  { r with evaluator := f r.evaluator }

/-- Types whose values evaluate objective and constraints and may take notes of type `ω`. The
thread is the one on which the request came in. -/
class Evaluator (ω ε : Type) where
  objective : ε → Thread → (r : ObjectiveRequest) → Inquiring ω (Reply ε (ObjectiveOutput r))
  constraints : ε → Thread → (r : ConstraintRequest) → Inquiring ω (Reply ε (ConstraintOutput r))

end NonlinearFit
