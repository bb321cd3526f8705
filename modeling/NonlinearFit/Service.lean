import NonlinearFit.Evaluator
import NonlinearFit.Event
import NonlinearFit.Routine

/-!
# Serving callbacks

During a solve the callbacks of the routine are served by the problem's evaluator.

**Routing.** A callback is served when a solve is in flight on the thread it comes in on
(`answerObjective`, `answerConstraints`); any other callback stops the routine and is reported
(`stray`).

**Panics.** The first panic of the evaluator is kept. From then on every callback of the solve
asks the routine to stop, without reaching the evaluator.

**Constraints.** The Jacobian is read out of the routine's column-major buffer before the evaluator
sees it and written back afterwards; padding rows are never touched. A callback whose counts are
not the problem's, or whose buffer cannot hold the Jacobian, is refused.
-/

namespace NonlinearFit

/-- The mode and status that ask the routine to stop. -/
def stopRequest : Integer := -1

/-- The evaluator of a solve in flight, the matrix in which it writes the Jacobian, and the payload
of its first panic. -/
structure Service (ε : Type) (rows cols : Nat) where
  evaluator : ε
  scratch : Matrix rows cols
  panic : Option String

/-- What changes while a solve is in flight. -/
structure Serving (ω ε : Type) (rows cols : Nat) where
  service : Service ε rows cols
  events : Array (Event ω)

/-- A buffer with its first entries replaced. -/
def overwrite {α : Type} (buffer : Array α) {k : Nat} (front : Vector α k) :
    Vector α buffer.size :=
  Vector.ofFn fun i => front[i.val]?.getD buffer[i]

namespace Serving

variable {ω ε : Type} {rows cols : Nat}

/-- Records an event. -/
def record (s : Serving ω ε rows cols) (t : Trace) : Serving ω ε rows cols :=
  { s with events := s.events.push (.trace t) }

/-- Answers an inquiry made during flight `f`. -/
def answerInquiry (f : Flight) (events : Array (Event ω)) :
    (q : Inquiry ω) → q.Answer × Array (Event ω)
  | .note n => ((), events.push (.note n))
  | .busy => (f.gate.claimed, events)
  | .attempt t d x₀ => (f.refusal t d x₀, events)

/-- Runs a program of the evaluator. -/
def consult {α : Type} (f : Flight) (p : Inquiring ω α) (events : Array (Event ω)) :
    α × Array (Event ω) :=
  p.run (fun q events => answerInquiry f events q) events

/-- Keeps the payload of a panic, unless one is kept already. -/
def recordPanic (s : Serving ω ε rows cols) (payload : String) : Serving ω ε rows cols :=
  { s with service.panic := s.service.panic <|> some payload }.record .evaluatorPanicked

/-! ## Refusals -/

/-- The answer to an objective callback that is not served. -/
def refuseObjective (c : ObjectiveCall) : ObjectiveReturn c where
  status := stopRequest
  mode := stopRequest
  value := c.value
  gradient := ⟨c.gradient, rfl⟩

/-- The answer to a constraint callback that is not served. -/
def refuseConstraints (c : ConstraintCall) : ConstraintReturn c where
  status := stopRequest
  mode := stopRequest
  values := ⟨c.values, rfl⟩
  jacobian := ⟨c.jacobian, rfl⟩

/-! ## The objective -/

/-- The request that an objective callback makes. -/
def objectiveRequest (c : ObjectiveCall) : ObjectiveRequest where
  mode := c.mode
  nstate := c.nstate
  point := c.point.extract 0 c.unknowns.toCount
  value := c.value
  gradient := c.gradient.extract 0 c.unknowns.toCount

/-- Serves an objective callback. -/
def serveObjective [Evaluator ω ε] (f : Flight) (c : ObjectiveCall)
    (s : Serving ω ε rows cols) : ObjectiveReturn c × Serving ω ε rows cols :=
  if s.service.panic.isSome then (refuseObjective c, s)
  else
    let (reply, events) := consult f
      (Evaluator.objective s.service.evaluator c.thread (objectiveRequest c)) s.events
    let s := { s with service.evaluator := reply.evaluator, events }
    let gradient := overwrite c.gradient reply.output.gradient
    match reply.ending with
    | .ok status =>
      ({ status, mode := reply.output.mode, value := reply.output.value, gradient }, s)
    | .error payload =>
      ({ status := stopRequest, mode := stopRequest, value := reply.output.value, gradient },
        s.recordPanic payload)

/-! ## The constraints -/

/-- The part of the routine's Jacobian buffer that a constraint callback speaks of. -/
def jacobianBuffer (c : ConstraintCall) : Vector Float
    (min (c.stride.toCount * c.unknowns.toCount) c.jacobian.size) :=
  ⟨c.jacobian.extract 0 (c.stride.toCount * c.unknowns.toCount), by simp⟩

/-- The request that a constraint callback makes, given the Jacobian it came with. -/
abbrev constraintRequest (c : ConstraintCall) (jacobian : Matrix rows cols) : ConstraintRequest where
  rows := rows
  cols := cols
  mode := c.mode
  nstate := c.nstate
  needed := c.needed.extract 0 c.nonlinear.toCount
  point := c.point.extract 0 c.unknowns.toCount
  values := c.values.extract 0 c.nonlinear.toCount
  jacobian := jacobian

/-- Serves a constraint callback whose Jacobian has been read. -/
def evaluateConstraints [Evaluator ω ε] (f : Flight) (c : ConstraintCall)
    (jacobian : Matrix rows cols) (s : Serving ω ε rows cols) :
    ConstraintReturn c × Serving ω ε rows cols :=
  let (reply, events) := consult f
    (Evaluator.constraints s.service.evaluator c.thread (constraintRequest c jacobian)) s.events
  let s := { s with
    service.evaluator := reply.evaluator
    service.scratch := reply.output.jacobian
    events }
  let values := overwrite c.values reply.output.values
  match reply.ending with
  | .error payload => ({ refuseConstraints c with values }, s.recordPanic payload)
  | .ok status =>
    match s.service.scratch.scatter c.stride.toCount (jacobianBuffer c) with
    | .error e =>
      ({ refuseConstraints c with values }, s.record (.unwritableJacobian e c.stride.toCount))
    | .ok written =>
      ({ status, mode := reply.output.mode, values, jacobian := overwrite c.jacobian written }, s)

/-- Serves a constraint callback. -/
def serveConstraints [Evaluator ω ε] (f : Flight) (c : ConstraintCall)
    (s : Serving ω ε rows cols) : ConstraintReturn c × Serving ω ε rows cols :=
  let found := (min c.nonlinear.toCount c.needed.size, min c.unknowns.toCount c.point.size)
  if s.service.panic.isSome then (refuseConstraints c, s)
  else if (rows, cols) ≠ found then
    (refuseConstraints c, s.record (.wrongDimensions (rows, cols) found))
  else
    match Matrix.gather rows cols c.stride.toCount (jacobianBuffer c) with
    | .error e => (refuseConstraints c, s.record (.unreadableJacobian e c.stride.toCount))
    | .ok jacobian => evaluateConstraints f c jacobian s

/-! ## Routing -/

/-- Answers an objective callback made during flight `f`. -/
def answerObjective [Evaluator ω ε] (f : Flight) (c : ObjectiveCall)
    (s : Serving ω ε rows cols) : ObjectiveReturn c × Serving ω ε rows cols :=
  match f.gate.serving c.thread with
  | none => (refuseObjective c, s.record (.unserved .objective))
  | some _ => serveObjective f c s

/-- Answers a constraint callback made during flight `f`. -/
def answerConstraints [Evaluator ω ε] (f : Flight) (c : ConstraintCall)
    (s : Serving ω ε rows cols) : ConstraintReturn c × Serving ω ε rows cols :=
  match f.gate.serving c.thread with
  | none => (refuseConstraints c, s.record (.unserved .constraints))
  | some _ => serveConstraints f c s

/-- Answers a query of the routine made during flight `f`. -/
def answer [Evaluator ω ε] (f : Flight) :
    (q : Query ω) → Serving ω ε rows cols → q.Answer × Serving ω ε rows cols
  | .inquiry q, s => let (a, events) := answerInquiry f s.events q; (a, { s with events })
  | .objective c, s => answerObjective f c s
  | .constraints c, s => answerConstraints f c s

end Serving

/-! ## Stray callbacks -/

/-- A callback that was kept from an earlier solve and is called when none is in flight, with the
buffers it is given. The mode may be missing. -/
structure StrayCall where
  callback : Callback
  mode : Option Integer
  value : Float
  output : Array Float
  jacobian : Array Float

/-- What a stray callback leaves behind. -/
structure StrayReturn where
  status : Integer
  mode : Option Integer
  value : Float
  output : Array Float
  jacobian : Array Float

/-- Answers a stray callback on thread `t`, if indeed no solve is in flight there. -/
def StrayCall.answer? (g : Gate Thread) (t : Thread) (c : StrayCall) :
    Option (StrayReturn × Trace) :=
  match g.serving t with
  | some _ => none
  | none => some ({ c with status := stopRequest, mode := c.mode.map fun _ => stopRequest },
      .unserved c.callback)

end NonlinearFit
