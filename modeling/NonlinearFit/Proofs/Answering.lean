import NonlinearFit.Service

/-!
# What can come of a query

`Serving.answer` looks at the thread, the kept panic, the counts and the buffers before it asks the
evaluator. `Serving.Response` says once what all of this can come to: the service stays as it was
and a callback is refused, or the evaluator is asked and returns, or the evaluator is asked and
panics. `Serving.response` shows that there is nothing else, so that whatever has to hold after
each query is a case analysis of seven cases.

A Jacobian that could be read can be written back (`scatter_of_gather`), so no error is left after
the evaluator was asked.
-/

namespace NonlinearFit

/-! ## Reading and writing back -/

theorem Matrix.scatter_of_gather {rows cols stride k : Nat} {α : Type} {buffer : Vector α k}
    {m : Matrix rows cols α} (h : gather rows cols stride buffer = .ok m)
    (m' : Matrix rows cols α) : ∃ written, m'.scatter stride buffer = .ok written := by
  cases hfits : fits rows cols stride k with
  | error e =>
    rw [gather_of_error hfits] at h
    cases h
  | ok u =>
    rw [scatter, hfits]
    exact ⟨_, rfl⟩

namespace Serving

variable {ω ε : Type} {rows cols : Nat} [Evaluator ω ε]

/-! ## Asking the evaluator -/

/-- What the evaluator replies to an objective callback. -/
def objectiveReply (f : Flight) (s : Serving ω ε rows cols) (c : ObjectiveCall) :
    Reply ε (ObjectiveOutput (objectiveRequest c)) :=
  (consult f (Evaluator.objective s.service.evaluator c.thread (objectiveRequest c)) s.events).1

/-- What the evaluator replies to a constraint callback that came with `jacobian`. -/
def constraintReply (f : Flight) (s : Serving ω ε rows cols) (c : ConstraintCall)
    (jacobian : Matrix rows cols) : Reply ε (ConstraintOutput (constraintRequest c jacobian)) :=
  (consult f (Evaluator.constraints s.service.evaluator c.thread (constraintRequest c jacobian))
    s.events).1

/-! ## Responses -/

/-- The answer that a query can get, and the service that it can leave. -/
inductive Response (f : Flight) (s : Serving ω ε rows cols) :
    (q : Query ω) → q.Answer → Service ε rows cols → Prop
  | inquiry (q : Inquiry ω) (a : q.Answer) : Response f s (.inquiry q) a s.service
  | objectiveRefused (c : ObjectiveCall) :
    Response f s (.objective c) (refuseObjective c) s.service
  | constraintsRefused (c : ConstraintCall) :
    Response f s (.constraints c) (refuseConstraints c) s.service
  | objectiveDone {c : ObjectiveCall} {r : ObjectiveReturn c} (open_ : s.service.panic = none)
    (ended : (s.objectiveReply f c).ending = .ok r.status)
    (mode : r.mode = (s.objectiveReply f c).output.mode) :
    Response f s (.objective c) r
      { s.service with evaluator := (s.objectiveReply f c).evaluator }
  | constraintsDone {c : ConstraintCall} {r : ConstraintReturn c} {jacobian : Matrix rows cols}
    (open_ : s.service.panic = none)
    (ended : (s.constraintReply f c jacobian).ending = .ok r.status)
    (mode : r.mode = (s.constraintReply f c jacobian).output.mode) :
    Response f s (.constraints c) r
      { s.service with
        evaluator := (s.constraintReply f c jacobian).evaluator
        scratch := (s.constraintReply f c jacobian).output.jacobian }
  | objectivePanicked {c : ObjectiveCall} {r : ObjectiveReturn c} {payload : String}
    (open_ : s.service.panic = none)
    (ended : (s.objectiveReply f c).ending = .error payload)
    (status : r.status = stopRequest) (mode : r.mode = stopRequest) :
    Response f s (.objective c) r
      { s.service with evaluator := (s.objectiveReply f c).evaluator, panic := some payload }
  | constraintsPanicked {c : ConstraintCall} {r : ConstraintReturn c} {jacobian : Matrix rows cols}
    {payload : String} (open_ : s.service.panic = none)
    (ended : (s.constraintReply f c jacobian).ending = .error payload)
    (status : r.status = stopRequest) (mode : r.mode = stopRequest)
    (kept : r.jacobian.toArray = c.jacobian) :
    Response f s (.constraints c) r
      { evaluator := (s.constraintReply f c jacobian).evaluator
        scratch := (s.constraintReply f c jacobian).output.jacobian
        panic := some payload }

theorem response_serveObjective (f : Flight) (s : Serving ω ε rows cols) (c : ObjectiveCall) :
    Response f s (.objective c) (serveObjective f c s).1 (serveObjective f c s).2.service := by
  unfold serveObjective
  cases hp : s.service.panic with
  | some payload => exact .objectiveRefused c
  | none =>
    simp only [Option.isSome_none, Bool.false_eq_true, if_false]
    cases he : (s.objectiveReply f c).ending with
    | ok status =>
      unfold objectiveReply at he
      simp only [he]
      exact .objectiveDone hp he rfl
    | error payload =>
      unfold objectiveReply at he
      simp only [he, recordPanic, record, hp]
      exact .objectivePanicked hp he rfl rfl

theorem response_evaluateConstraints (f : Flight) (s : Serving ω ε rows cols) (c : ConstraintCall)
    {jacobian : Matrix rows cols}
    (hg : Matrix.gather rows cols c.stride.toCount (jacobianBuffer c) = .ok jacobian)
    (hp : s.service.panic = none) :
    Response f s (.constraints c) (evaluateConstraints f c jacobian s).1
      (evaluateConstraints f c jacobian s).2.service := by
  unfold evaluateConstraints
  cases he : (s.constraintReply f c jacobian).ending with
  | ok status =>
    obtain ⟨written, hw⟩ :=
      Matrix.scatter_of_gather hg (s.constraintReply f c jacobian).output.jacobian
    unfold constraintReply at he hw
    simp only [he]
    rw [hw]
    exact .constraintsDone hp he rfl
  | error payload =>
    unfold constraintReply at he
    simp only [he, recordPanic, record, hp]
    exact .constraintsPanicked hp he rfl rfl rfl

theorem response_serveConstraints (f : Flight) (s : Serving ω ε rows cols) (c : ConstraintCall) :
    Response f s (.constraints c) (serveConstraints f c s).1
      (serveConstraints f c s).2.service := by
  unfold serveConstraints
  cases hp : s.service.panic with
  | some payload => exact .constraintsRefused c
  | none =>
    simp only [Option.isSome_none, Bool.false_eq_true, if_false]
    split
    · exact .constraintsRefused c
    · cases hg : Matrix.gather rows cols c.stride.toCount (jacobianBuffer c) with
      | error e => exact .constraintsRefused c
      | ok jacobian => exact response_evaluateConstraints f s c hg hp

/-- **Every query gets one of these responses.** -/
theorem response (f : Flight) (q : Query ω) (s : Serving ω ε rows cols) :
    Response f s q (answer f q s).1 (answer f q s).2.service := by
  cases q with
  | inquiry q => exact .inquiry q _
  | objective c =>
    show Response f s (.objective c) (answerObjective f c s).1 (answerObjective f c s).2.service
    unfold answerObjective
    cases f.gate.serving c.thread with
    | none => exact .objectiveRefused c
    | some _ => exact response_serveObjective f s c
  | constraints c =>
    show Response f s (.constraints c) (answerConstraints f c s).1
      (answerConstraints f c s).2.service
    unfold answerConstraints
    cases f.gate.serving c.thread with
    | none => exact .constraintsRefused c
    | some _ => exact response_serveConstraints f s c

end Serving

end NonlinearFit
