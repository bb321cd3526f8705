import NonlinearFit.Word

/-!
# The status of a solve

The routine ends with an integer code. `Status` keeps the code as reported and `Status.meaning`
classifies it: the documented codes have a meaning each, a negative one is the code an evaluator
stopped the run with, and any other is unrecognized.
-/

namespace NonlinearFit

/-- A code as the routine reported it. -/
structure Status where
  code : Integer
deriving DecidableEq, Repr

/-- What the routine documents about a code. -/
inductive Meaning where
  | optimal
  | weakOptimum
  | linearInfeasible
  | nonlinearInfeasible
  | iterationLimit
  | cannotImprove
  | derivativeError
  | invalidInput
  /-- An evaluator asked the routine to stop with this code. -/
  | userStop (code : Integer)
  | unrecognized (code : Integer)
deriving DecidableEq, Repr

/-- The words that describe a meaning. -/
def Meaning.describe : Meaning → String
  | optimal => "optimal solution found"
  | weakOptimum => "optimal, but requested accuracy not achieved"
  | linearInfeasible => "linear constraints and bounds are infeasible"
  | nonlinearInfeasible => "nonlinear constraints are infeasible"
  | iterationLimit => "major iteration limit reached"
  | cannotImprove => "current point cannot be improved"
  | derivativeError => "derivatives appear to be incorrect"
  | invalidInput => "invalid input parameter"
  | userStop _ => "stopped at the evaluator's request"
  | unrecognized _ => "unrecognized status"

namespace Status

def isOptimal (s : Status) : Bool := s.code == 0

def meaning (s : Status) : Meaning :=
  if s.code = 0 then .optimal
  else if s.code = 1 then .weakOptimum
  else if s.code = 2 then .linearInfeasible
  else if s.code = 3 then .nonlinearInfeasible
  else if s.code = 4 then .iterationLimit
  else if s.code = 6 then .cannotImprove
  else if s.code = 7 then .derivativeError
  else if s.code = 9 then .invalidInput
  else if s.code < 0 then .userStop s.code
  else .unrecognized s.code

/-- The code with its description. -/
def text (s : Status) : String :=
  "inform " ++ toString s.code.toInt ++ ": " ++ s.meaning.describe

end Status

end NonlinearFit
