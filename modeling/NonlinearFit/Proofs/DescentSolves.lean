import NonlinearFit.Proofs.CallbackScreening
import NonlinearFit.Proofs.DescentPaths
import NonlinearFit.Proofs.WordSizes

/-!
# Solves by gradient descent

A problem whose routine is a gradient descent is solved by a run of it, in which the problem's own
evaluator answers (`Problem.departs_call`). So what all runs have in common holds of the solve. If the
solve is watched, the run is that of the descent itself (`Problem.dialogue_watched_eq`,
`Problem.solve_watched_eq`).

**Its callbacks** keep to what is asked of callbacks: their counts are those of the problem, and their
buffers are as long as the counts say (`CallsBack.contracted`). So they are served until the evaluator
panics.
-/

namespace NonlinearFit

open GradientDescent

variable {ω : Type} {d : Dimensions} {ε ρ : Type}

/-- The bounds of the variables of a problem. -/
def Problem.box (p : Problem d ε ρ) : Box d.unknowns := GradientDescent.box p.store.arguments

/-! ## Callbacks -/

/-- The point at which a callback evaluates. -/
def Query.point? : Query ω → Option (Array Float)
  | inquiry _ => none
  | objective c => some c.point
  | constraints c => some c.point

namespace GradientDescent

theorem contracted_objectiveCall (t : Thread) (nstate : Integer) (x buffer : Vector Float d.unknowns) :
    (Query.objective (objectiveCall t d.counts.unknowns nstate x buffer) : Query ω).Contracted t := by
  have hcount := d.bounds_of_counts.1
  refine ⟨rfl, ?_, ?_⟩
  · exact Nat.le_of_eq (hcount.trans x.size_toArray.symm)
  · exact Nat.le_of_eq (hcount.trans buffer.size_toArray.symm)

theorem contracted_constraintCall (t : Thread) (a : Arguments d) :
    (Query.constraints (constraintCall t d.counts a) : Query ω).Contracted t := by
  obtain ⟨hunknowns, -, hnonlinear⟩ := d.bounds_of_counts
  let c := constraintCall t d.counts a
  have hneeded : c.needed.size = d.jacobianRows := Array.size_replicate
  have hpoint : c.point.size = d.unknowns := a.point.size_toArray
  have hvalues : c.values.size = d.jacobianRows := a.values.size_toArray
  have hjacobian : c.jacobian.size = d.jacobianRows * d.unknowns := a.jacobian.size_toArray
  have hstride : c.stride.toCount = d.jacobianRows := d.rows_of_counts.2.1
  exact ⟨rfl, {
    needed := by
      rw [hneeded]
      exact Nat.le_trans (Nat.le_of_eq hnonlinear) d.nonlinear_le_jacobianRows
    point := Nat.le_of_eq (hunknowns.trans hpoint.symm)
    values := by
      rw [hvalues]
      exact Nat.le_trans (Nat.le_of_eq hnonlinear) d.nonlinear_le_jacobianRows
    jacobian := by
      rw [hjacobian, hstride]
      exact Nat.le_of_eq (congrArg (d.jacobianRows * ·) hunknowns)
    addressable := by
      rw [hjacobian]
      exact d.jacobian_le }⟩

theorem matches_constraintCall (t : Thread) (a : Arguments d) :
    (constraintCall t d.counts a).Matches d := by
  obtain ⟨hunknowns, -, hnonlinear⟩ := d.bounds_of_counts
  refine ConstraintCall.matches_iff.mpr ⟨hnonlinear, hunknowns, ?_⟩
  show d.nonlinear ≤ d.counts.jacobianRows.toCount
  rw [d.rows_of_counts.2.1]
  exact d.nonlinear_le_jacobianRows

/-- The callbacks of a descent that is told the sizes of a problem. -/
inductive CallsBack (d : Dimensions) (t : Thread) : Query ω → Prop
  | objective (nstate : Integer) (x buffer : Vector Float d.unknowns) :
    CallsBack d t (.objective (objectiveCall t d.counts.unknowns nstate x buffer))
  | constraints (a : Arguments d) : CallsBack d t (.constraints (constraintCall t d.counts a))

/-- **A run makes no other callbacks.** -/
theorem Departs.callsBack {σ : Type} {r : GradientDescent} {t : Thread} {a : Arguments d}
    {turns : List (Turn (Query ω) Query.Answer σ)} {left : Departure d GradientDescent}
    (h : Departs r t d.counts a turns left) : ∀ u ∈ turns, CallsBack d t u.query := by
  have hevaluations {turns : List (Turn (Query ω) Query.Answer σ)}
      {log : List (Evaluation d.unknowns)}
      (evaluates : List.Forall₂ (Evaluates t d.counts.unknowns) turns log) :
      ∀ u ∈ turns, CallsBack d t u.query := by
    intro u hu
    obtain ⟨v, -, hv⟩ := exists_evaluation_of_mem evaluates hu
    cases hv
    exact .objective _ _ _
  cases h with
  | crossed => exact fun _ hu => absurd hu List.not_mem_nil
  | finished _ evaluates => exact hevaluations evaluates
  | constrained v _ evaluates =>
    exact List.forall_mem_append.mpr
      ⟨hevaluations evaluates, List.forall_mem_singleton.mpr (.constraints _)⟩

/-- **Callbacks of a descent keep to the contract**, and their counts are right. -/
theorem CallsBack.contracted {t : Thread} {q : Query ω} (h : CallsBack d t q) :
    q.Contracted t ∧ q.Matches d := by
  cases h with
  | objective nstate x buffer => exact ⟨contracted_objectiveCall t nstate x buffer, trivial⟩
  | constraints a => exact ⟨contracted_constraintCall t a, matches_constraintCall t a⟩

end GradientDescent

/-! ## Solves -/

namespace Problem

variable [Evaluator ω ε] {g g' : Gate Thread} {t : Thread} {x₀ : Array Float}

/-- **The routine's part of a solve is a run of the descent** on the prepared buffers. -/
theorem departs_call (p : Problem d ε GradientDescent) (h : g.grant t d x₀ = .ok g') :
    Departs p.routine t d.counts (p.store.prepared ⟨x₀, Gate.size_of_grant h⟩).arguments
      (p.dialogue (ω := ω) g t x₀)
      (p.call (ω := ω) (.ofGrant h) (p.store.prepared ⟨x₀, Gate.size_of_grant h⟩)).1 := by
  rw [dialogue_granted _ h]
  exact departs _ _ _ _ _ _

variable [Routine ω ρ] (p : Problem d ε ρ)

/-- What the routine asks is answered by the serving. -/
theorem answered_of_mem_dialogue (h : g.grant t d x₀ = .ok g')
    {u : Turn (Query ω) Query.Answer (Serving ω ε d.nonlinear d.unknowns)}
    (hu : u ∈ p.dialogue (ω := ω) g t x₀) :
    u.answer = (Serving.answer (.ofGrant h) u.query u.before).1 ∧
      u.after = (Serving.answer (.ofGrant h) u.query u.before).2 := by
  rw [p.dialogue_granted h] at hu
  exact Program.handle_of_mem_dialogue _ hu

/-- The routine of a watched problem asks as it does unwatched. -/
theorem dialogue_watched_eq (h : g.grant t d x₀ = .ok g') :
    p.watched.dialogue (ω := ω) g t x₀ =
      (Routine.solve p.routine t d.counts
          (p.store.prepared ⟨x₀, Gate.size_of_grant h⟩).arguments).dialogue
        (Serving.answer (.ofGrant h)) ⟨p.watched.service, #[.trace (.callingRoutine d)]⟩ := by
  rw [dialogue_granted _ h]
  exact Program.dialogue_map _ _ _ _

/-- A watched solve concludes what the routine does, with the call put on the list. -/
theorem solve_watched_eq (h : g.grant t d x₀ = .ok g') :
    p.watched.solve (ω := ω) g t x₀ =
      let lent := p.store.prepared ⟨x₀, Gate.size_of_grant h⟩
      let run := (Routine.solve p.routine t d.counts lent.arguments).run
        (Serving.answer (.ofGrant h)) ⟨p.watched.service, #[.trace (.callingRoutine d)]⟩
      conclude g lent (p.watched.routine.departure t d.counts lent.arguments run.1) run.2 := by
  rw [solve_granted _ h]
  dsimp only
  rw [show p.watched.call (ω := ω) (.ofGrant h) _ = _ from Program.run_map _ _ _ _]
  rfl

omit [Routine ω ρ] in
/-- **Watched, it is a run of the descent** too. -/
theorem departs_watched (p : Problem d ε GradientDescent) (h : g.grant t d x₀ = .ok g') :
    let lent := p.store.prepared ⟨x₀, Gate.size_of_grant h⟩
    Departs p.routine t d.counts lent.arguments (p.watched.dialogue (ω := ω) g t x₀)
      ((p.routine.solve (ω := ω) t d.counts lent.arguments).run (Serving.answer (.ofGrant h))
        ⟨p.watched.service, #[.trace (.callingRoutine d)]⟩).1 := by
  intro lent
  rw [p.dialogue_watched_eq h]
  exact departs ..

end Problem

end NonlinearFit
