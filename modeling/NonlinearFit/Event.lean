import NonlinearFit.Dimensions
import NonlinearFit.Json.Document
import NonlinearFit.Matrix.ColumnMajor
import NonlinearFit.Matrix.Strided
import NonlinearFit.Status

/-!
# Events

What happens while a problem is worked on is recorded in order: the library's own `Trace` events,
and notes that evaluators and routines make for themselves, of whatever type `ω` they use.
-/

namespace NonlinearFit

/-- The two callbacks that a routine is given. -/
inductive Callback where
  | objective
  | constraints
deriving DecidableEq, Repr

/-- The routine's name for a callback. -/
def Callback.name : Callback → String
  | objective => "objfun"
  | constraints => "confun"

/-- How urgent a trace event is. -/
inductive Level where
  | debug
  | info
  | warn
  | error
deriving DecidableEq, Repr

/-- An event of the library. -/
inductive Trace where
  /-- An option line is about to go to the routine. -/
  | forwardingOption (line : String)
  /-- The routine is about to be called. -/
  | callingRoutine (d : Dimensions)
  | routineReturned (status : Status) (iterations : Integer) (objective : Float)
  /-- A callback came in on a thread that serves no solve. -/
  | unserved (callback : Callback)
  /-- A constraint callback came with other numbers of constraints and variables. -/
  | wrongDimensions (expected found : Nat × Nat)
  | unreadableJacobian (e : StrideError) (stride : Nat)
  | unwritableJacobian (e : StrideError) (stride : Nat)
  | evaluatorPanicked
deriving DecidableEq

namespace Trace

def level : Trace → Level
  | forwardingOption _ | callingRoutine _ => .debug
  | routineReturned .. => .info
  | unserved _ => .warn
  | wrongDimensions .. | unreadableJacobian .. | unwritableJacobian .. | evaluatorPanicked => .error

def message : Trace → String
  | forwardingOption _ => "forwarding option"
  | callingRoutine _ => "calling routine"
  | routineReturned .. => "routine returned"
  | unserved _ => "callback invoked with no active job; asking the routine to stop"
  | wrongDimensions .. => "constraint callback dimensions do not match the job"
  | unreadableJacobian .. => "cannot read the routine's Jacobian buffer"
  | unwritableJacobian .. => "cannot write the routine's Jacobian buffer"
  | evaluatorPanicked => "evaluator panicked; asking the routine to stop"

/-- The data that goes with the message. -/
def data : Trace → List (String × Document)
  | forwardingOption line => [("directive", .string line)]
  | callingRoutine d => [
      ("n", .integer d.unknowns), ("nclin", .integer d.linear), ("ncnln", .integer d.nonlinear),
      ("lda", .integer d.linearRows), ("ldj", .integer d.jacobianRows),
      ("ldr", .integer d.unknowns), ("leniw", .integer d.integerWork),
      ("lenw", .integer d.realWork)]
  | routineReturned status iterations objective => [
      ("inform", .integer status.code.toInt), ("iterations", .integer iterations.toInt),
      ("objective", .float objective)]
  | unserved callback => [("callback", .string callback.name)]
  | wrongDimensions expected found => [("expected", pair expected), ("found", pair found)]
  | unreadableJacobian e stride | unwritableJacobian e stride => [
      ("e", .string e.message), ("ldj", .integer stride)]
  | evaluatorPanicked => []
where
  pair (s : Nat × Nat) : Document := .string (LayoutMismatch.message.pair s)

end Trace

/-- Something that happened: an event of the library or a note of type `ω`. -/
inductive Event (ω : Type) where
  | trace (t : Trace)
  | note (n : ω)

end NonlinearFit
