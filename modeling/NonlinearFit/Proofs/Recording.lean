import NonlinearFit.Proofs.Answering
import NonlinearFit.Proofs.Solving

/-!
# What serving records

While a solve is in flight events are only ever added. Serving a callback adds notes and four kinds
of trace events (`Event.Arises`): a callback that no solve serves, counts that are not those of the
problem, a Jacobian that cannot be read, a panic of the evaluator. A Jacobian that cannot be written
is not among them, since one that could be read can be written back.

**Adding.** `Records es es'` says that `es'` is `es` with such events added. Every query of the
routine records (`Serving.records_answer`), and so does its whole run (`Problem.records_call`).

Main result: `events_solve`, which says what the events of a solve look like.
-/

namespace NonlinearFit

variable {ω : Type} {d : Dimensions} {ε ρ : Type}

/-! ## Adding events -/

/-- Whether an event can arise while a callback is served. -/
def Event.Arises : Event ω → Prop
  | .note _ => True
  | .trace (.unserved _) | .trace (.wrongDimensions ..) | .trace (.unreadableJacobian ..)
  | .trace .evaluatorPanicked => True
  | .trace (.forwardingOption _) | .trace (.callingRoutine _) | .trace (.routineReturned ..)
  | .trace (.unwritableJacobian ..) => False

/-- The later events are the earlier ones and some that arose since. -/
def Records (earlier later : Array (Event ω)) : Prop :=
  ∃ arisen : Array (Event ω), later = earlier ++ arisen ∧ ∀ x ∈ arisen, x.Arises

namespace Records

theorem refl (es : Array (Event ω)) : Records es es :=
  ⟨#[], Array.append_empty.symm, fun x hx => absurd hx (Array.not_mem_empty x)⟩

/-- One more event that can arise. -/
theorem push {es es' : Array (Event ω)} (h : Records es es') {x : Event ω} (hx : x.Arises) :
    Records es (es'.push x) := by
  obtain ⟨arisen, rfl, harisen⟩ := h
  refine ⟨arisen.push x, Array.append_push.symm, fun y hy => ?_⟩
  rcases Array.mem_push.mp hy with hy | rfl
  · exact harisen y hy
  · exact hx

end Records

/-! ## Serving -/

namespace Serving

variable {rows cols : Nat} (f : Flight)

theorem records_answerInquiry {es es' : Array (Event ω)} (h : Records es es') (q : Inquiry ω) :
    Records es (answerInquiry f es' q).2 := by
  cases q with
  | note n => exact h.push trivial
  | busy | attempt => exact h

theorem records_consult {α : Type} {es es' : Array (Event ω)} (h : Records es es')
    (p : Inquiring ω α) : Records es (consult f p es').2 := by
  refine Program.run_invariant (I := Records es) (fun q es' h => ?_) p h
  exact records_answerInquiry f h q

variable [Evaluator ω ε] {es : Array (Event ω)} {s : Serving ω ε rows cols}
  (h : Records es s.events)

include h

theorem records_serveObjective (c : ObjectiveCall) :
    Records es (serveObjective f c s).2.events := by
  unfold serveObjective
  split
  · exact h
  · have hasked := records_consult f h
      (Evaluator.objective s.service.evaluator c.thread (objectiveRequest c))
    dsimp only
    split
    · exact hasked
    · exact hasked.push trivial

theorem records_evaluateConstraints {c : ConstraintCall} {m : Matrix rows cols}
    (hgather : Matrix.gather rows cols c.stride.toCount (jacobianBuffer c) = .ok m) :
    Records es (evaluateConstraints f c m s).2.events := by
  have hasked := records_consult f h
    (Evaluator.constraints s.service.evaluator c.thread (constraintRequest c m))
  unfold evaluateConstraints
  dsimp only
  split
  · exact hasked.push trivial
  · split
    · next e hscatter =>
      -- What could be read can be written back.
      obtain ⟨written, hw⟩ :=
        Matrix.scatter_of_gather hgather (s.constraintReply f c m).output.jacobian
      exact absurd (hw.symm.trans hscatter) nofun
    · exact hasked

theorem records_serveConstraints (c : ConstraintCall) :
    Records es (serveConstraints f c s).2.events := by
  unfold serveConstraints
  dsimp only
  split
  · exact h
  · split
    · exact h.push trivial
    · cases hgather : Matrix.gather rows cols c.stride.toCount (jacobianBuffer c) with
      | error e => exact h.push trivial
      | ok m => exact records_evaluateConstraints f h hgather

/-- **Answering a query** adds events that can arise, and keeps the earlier ones. -/
theorem records_answer (q : Query ω) : Records es (answer f q s).2.events := by
  cases q with
  | inquiry q => exact records_answerInquiry f h q
  | objective c =>
    show Records es (answerObjective f c s).2.events
    unfold answerObjective
    cases f.gate.serving c.thread with
    | none => exact h.push trivial
    | some _ => exact records_serveObjective f h c
  | constraints c =>
    show Records es (answerConstraints f c s).2.events
    unfold answerConstraints
    cases f.gate.serving c.thread with
    | none => exact h.push trivial
    | some _ => exact records_serveConstraints f h c

end Serving

/-! ## Solves -/

namespace Problem

variable [Evaluator ω ε] [Routine ω ρ] (p : Problem d ε ρ)

theorem records_call (f : Flight) (lent : Store d) :
    Records #[.trace (.callingRoutine d)] (p.call (ω := ω) f lent).2.events := by
  let I (s : Serving ω ε d.nonlinear d.unknowns) : Prop :=
    Records #[.trace (.callingRoutine d)] s.events
  have step (q : Query ω) (s : Serving ω ε d.nonlinear d.unknowns) (hs : I s) :
      I (Serving.answer f q s).2 := Serving.records_answer f hs q
  exact Program.run_invariant (I := I) step _ (Records.refl _)

/-- **The events of a solve**: none if it is refused. Otherwise the routine is about to be called,
then come events that arise while callbacks are served, and at the end, if it returns, that it has
returned. -/
theorem events_solve (g : Gate Thread) (t : Thread) (x₀ : Array Float) :
    (p.solve (ω := ω) g t x₀).events = #[] ∨
      ∃ served, Records #[.trace (.callingRoutine d)] served ∧
        ((p.solve (ω := ω) g t x₀).events = served ∨
          ∃ status iterations objective, (p.solve (ω := ω) g t x₀).events =
            served.push (.trace (.routineReturned status iterations objective))) := by
  cases hg : g.grant t d x₀ with
  | error e =>
    rw [p.solve_refused hg]
    exact .inl rfl
  | ok g' =>
    rw [p.solve_granted hg]
    dsimp only
    refine .inr ⟨_, p.records_call (.ofGrant hg) (p.store.prepared ⟨x₀, Gate.size_of_grant hg⟩), ?_⟩
    generalize p.call (ω := ω) (.ofGrant hg) _ = run
    cases hpanic : run.1.panic with
    | none =>
      rw [conclude_eq_of_return hpanic]
      exact .inr ⟨_, _, _, rfl⟩
    | some payload =>
      rw [conclude_eq_of_panic hpanic]
      exact .inl rfl

/-- **A solve never fails to write a Jacobian back.** -/
theorem unwritableJacobian_not_mem (g : Gate Thread) (t : Thread) (x₀ : Array Float)
    (e : StrideError) (stride : Nat) :
    .trace (.unwritableJacobian e stride) ∉ (p.solve (ω := ω) g t x₀).events := by
  intro hmem
  have hserved {served : Array (Event ω)} (h : Records #[.trace (.callingRoutine d)] served) :
      .trace (.unwritableJacobian e stride) ∉ served := by
    obtain ⟨arisen, rfl, harisen⟩ := h
    intro hmem
    rcases Array.mem_append.mp hmem with hmem | hmem
    · cases Array.mem_singleton.mp hmem
    · exact harisen _ hmem
  rcases p.events_solve (ω := ω) g t x₀ with hnone | ⟨served, h, hend | ⟨_, _, _, hend⟩⟩
  · rw [hnone] at hmem
    exact Array.not_mem_empty _ hmem
  · rw [hend] at hmem
    exact hserved h hmem
  · rw [hend] at hmem
    rcases Array.mem_push.mp hmem with hmem | heq
    · exact hserved h hmem
    · cases heq

end Problem

end NonlinearFit
