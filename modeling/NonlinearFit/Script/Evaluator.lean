import NonlinearFit.Script.Basic
import NonlinearFit.Session

/-!
# Scripted evaluators

An `EvaluatorScript` notes each request and then runs the actions of its script in order. The
callback returns 0 unless an action sets another status; a panic ends the script.
-/

namespace NonlinearFit.Script

/-! ## Actions -/

namespace ObjectiveAction

variable {r : ObjectiveRequest}

/-- The sum of `w[i] * (x[i] - c[i])²` over the indices that all three have. -/
def weightedSquares (x weights centre : Array Float) : Float :=
  ((x.zip weights).zip centre).foldl
    (fun s ((x, w), c) => let d := x - c; s + w * (d * d)) 0.0

/-- The derivatives of `weightedSquares`. -/
def weightedSlopes (x weights centre : Array Float) : Array Float :=
  ((x.zip weights).zip centre).map fun ((x, w), c) => (2.0 * w) * (x - c)

/-- What an action does to the buffers of a request. -/
def apply (o : ObjectiveOutput r) : ObjectiveAction → ObjectiveOutput r
  | quadratic weights centre =>
    let slopes := weightedSlopes r.point weights centre
    { o with
      value := if asksValue o.mode then weightedSquares r.point weights centre else o.value
      gradient := if asksDerivative o.mode then o.gradient.mapIdx fun i g => slopes.getD i g
        else o.gradient }
  | value v => { o with value := v }
  | sum => { o with value := r.point.foldl (· + ·) 0.0 }
  | gradientAt i v => { o with gradient := o.gradient.setIfInBounds i v }
  | gradientFill v => { o with gradient := .replicate _ v }
  | control _ => o

end ObjectiveAction

namespace ConstraintAction

variable {r : ConstraintRequest}

/-- What an action does to the buffers of a request. -/
def apply (o : ConstraintOutput r) : ConstraintAction → ConstraintOutput r
  | valueAt i v => { o with values := o.values.setIfInBounds i v }
  | point =>
    if asksValue o.mode then { o with values := o.values.mapIdx fun i v => r.point.getD i v } else o
  | squares =>
    { o with
      values := if asksValue o.mode then o.values.mapIdx fun i v =>
          if h : i < r.point.size ∧ i < r.rows then r.point[i] * r.point[i] else v
        else o.values
      jacobian := if asksDerivative o.mode then o.jacobian.mapIdx fun i j v =>
          if h : i.val = j.val ∧ i.val < r.point.size then 2.0 * r.point[i.val] else v
        else o.jacobian }
  | entry i j v => { o with jacobian := o.jacobian.set i j v }
  | pattern =>
    { o with jacobian := o.jacobian.mapIdx fun i j _ => (10 * i.val + j.val).toFloat }
  | scale k => { o with jacobian := o.jacobian.mapIdx fun _ _ v => v * k }
  | fillNeeded v => { o with jacobian := o.jacobian.mapIdx fun i _ w => if r.needs i then v else w }
  | control _ => o

end ConstraintAction

/-! ## Running a script -/

/-- The thread itself, or another one if `elsewhere`. -/
def threadFor (t : Thread) (elsewhere : Bool) : Thread := if elsewhere then otherThread t else t

variable {κ Output : Type}

section

variable (control? : κ → Option Control) (apply : Output → κ → Output)
  (setMode : Output → Integer → Output) (inner : Option InnerProblem) (t : Thread)

/-- Runs an action on the buffers of a request, with the status so far. -/
def runAction (a : κ) (o : Output) (status : Integer) :
    Inquiring Note (Output × Except String Integer) :=
  match control? a with
  | none => .done (apply o a, .ok status)
  | some (.stop code) => requestStop setMode code o status
  | some (.status s) => .done (o, .ok s)
  | some (.panic text) => .raise text o
  | some (.nested x₀ elsewhere) =>
    match inner with
    | none => .done (o, .ok status)
    | some p => .ask (.attempt (threadFor t elsewhere) p.dims x₀) fun (e : Refusal) =>
      .ask (.note (.nested e p)) fun (_ : Unit) => .done (o, .ok status)

/-- Runs actions one after another, starting with the given status. -/
def runActions : List κ → Output → Integer → Inquiring Note (Output × Except String Integer)
  | [], o, status => .done (o, .ok status)
  | a :: rest, o, status =>
    (runAction control? apply setMode inner t a o status).andThen (runActions rest)

end

def ObjectiveAction.control? : ObjectiveAction → Option Control
  | control c => some c
  | _ => none

def ConstraintAction.control? : ConstraintAction → Option Control
  | control c => some c
  | _ => none

namespace EvaluatorScript

variable (s : EvaluatorScript InnerProblem) (t : Thread)

/-- Answers an objective request. -/
def answerObjective (r : ObjectiveRequest) :
    Inquiring Note (Reply (EvaluatorScript InnerProblem) (ObjectiveOutput r)) :=
  .ask .busy fun (b : Bool) => .ask (.note (.objective r b)) fun (_ : Unit) =>
    (runActions ObjectiveAction.control? ObjectiveAction.apply (fun o m => { o with mode := m })
      s.inner t (pick s.objective s.objectiveCalls) r.untouched 0).map fun (output, ending) =>
        { evaluator := { s with objectiveCalls := s.objectiveCalls + 1 }, output, ending }

/-- Answers a constraint request. -/
def answerConstraints (r : ConstraintRequest) :
    Inquiring Note (Reply (EvaluatorScript InnerProblem) (ConstraintOutput r)) :=
  .ask .busy fun (b : Bool) => .ask (.note (.constraints r b)) fun (_ : Unit) =>
    (runActions ConstraintAction.control? ConstraintAction.apply (fun o m => { o with mode := m })
      s.inner t (pick s.constraints s.constraintCalls) r.untouched 0).map fun (output, ending) =>
        { evaluator := { s with constraintCalls := s.constraintCalls + 1 }, output, ending }

/-- The scripts replaced, and calls counted from the beginning. -/
def restart (objective : List (List ObjectiveAction)) (constraints : List (List ConstraintAction)) :
    EvaluatorScript InnerProblem :=
  { s with objective, constraints, objectiveCalls := 0, constraintCalls := 0 }

end EvaluatorScript

instance : Evaluator Note (EvaluatorScript InnerProblem) where
  objective s t r := s.answerObjective t r
  constraints s t r := s.answerConstraints t r

end NonlinearFit.Script
