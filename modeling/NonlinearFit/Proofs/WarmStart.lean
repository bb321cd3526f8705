import NonlinearFit.Proofs.Handover
import NonlinearFit.Proofs.History
import NonlinearFit.Script.Routine

/-!
# Warm starts

After a solve whose routine returned, its results can be carried over and the problem solved again
from the point where it ended. The second routine then finds its arguments as the first one left
them (`Arguments.Resumes`): the exchanged buffers went out, were collected, carried and lent again,
and the others were never copied. Only the linear matrix is once more the problem's own, and status
and iterations are zero.

**Layouts.** Jacobian and Hessian factor change their layout twice on this way, from columns to rows
when they are collected and back when they are lent, padding included. The two changes undo each
other (`ColumnMajor.ofMatrix_toMatrix`), which makes the way of all buffers an equation
(`Store.arguments_resumed`).

**Carrying over** once or several times is the same (`Problem.run_replicate_warmStart`).

Main result: `warm_start_resumes`, for every problem and every routine that returned.
-/

namespace NonlinearFit

variable {ω : Type} {d : Dimensions} {ε ρ : Type}

/-! ## Arguments that continue -/

/-- The arguments `b` of a call for a problem with the data `s` continue where an earlier call
left `a`. -/
structure Arguments.Resumes (b : Arguments d) (s : Store d) (a : Arguments d) : Prop where
  jacobian : b.jacobian = a.jacobian
  multipliers : b.multipliers = a.multipliers
  hessian : b.hessian = a.hessian
  point : b.point = a.point
  state : b.state = a.state
  lower : b.lower = a.lower
  upper : b.upper = a.upper
  values : b.values = a.values
  objective : b.objective = a.objective
  gradient : b.gradient = a.gradient
  integerWork : b.integerWork = a.integerWork
  realWork : b.realWork = a.realWork
  linear : ∀ (i : Fin d.linearRows) (j : Fin d.unknowns),
    b.linear[j.val * d.linearRows + i.val]? = some (s.linear.get i j)
  status : b.status = 0
  iterations : b.iterations = 0

namespace Store

/-- **From one call to the next**: what was collected after the call that left `a` and carried over
is lent again as it was. -/
theorem arguments_resumed (s : Store d) (x₀ : Vector Float d.unknowns) (a : Arguments d) :
    (((s.prepared x₀).settled a).warmStart.prepared a.point).arguments =
      { a with linear := (ColumnMajor.ofMatrix s.linear).flat, status := 0, iterations := 0 } := by
  have hjacobian := ColumnMajor.ofMatrix_toMatrix ⟨a.jacobian⟩
  have hhessian := ColumnMajor.ofMatrix_toMatrix ⟨a.hessian⟩
  simp only [settled, warmStart, ExchangedVector.carry, ExchangedMatrix.carry, prepared, arguments,
    takeBack, hjacobian, hhessian]

theorem resumes_warmStart (s : Store d) (x₀ : Vector Float d.unknowns) (a : Arguments d) :
    (((s.prepared x₀).settled a).warmStart.prepared a.point).arguments.Resumes s a := by
  rw [arguments_resumed]
  constructor
  case linear => exact ColumnMajor.getElem?_ofMatrix s.linear
  all_goals rfl

end Store

/-! ## Carrying over and solving again -/

/-- A gate that let a solve in on one thread lets one in on every thread that serves none. -/
theorem Gate.exists_grant {g g' : Gate Thread} {t t' : Thread} {d d' : Dimensions}
    {x₀ : Array Float} (h : g.grant t d x₀ = .ok g') (unused : g.serving t' = none)
    (x₁ : Vector Float d'.unknowns) : ∃ g₁, g.grant t' d' x₁.toArray = .ok g₁ := by
  obtain ⟨-, hunclaimed, -⟩ := enter?_eq_some_iff.mp (grant_eq_ok_iff.mp h).2
  exact ⟨_, grant_eq_ok_iff.mpr ⟨x₁.size_toArray, enter?_eq_some_iff.mpr ⟨unused, hunclaimed, rfl⟩⟩⟩

namespace Problem

variable [Evaluator ω ε] [Routine ω ρ]

/-- Carrying over several times is the same as carrying over once. -/
theorem run_replicate_warmStart (p : Problem d ε ρ) (g : Gate Thread) (k : Nat) :
    p.run ω (.replicate (k + 1) (g, .warmStart)) = { p with store := p.store.warmStart } := by
  induction k generalizing p with
  | zero => rfl
  | succ k ih =>
    rw [List.replicate_succ]
    exact ih { p with store := p.store.warmStart }

/-- **A warm start resumes.** Suppose that a solve called the routine, which returned and left
`left`, whatever its status and whether or not the evaluator panicked on the way. When the results
are carried over, once or more often, and the problem is solved again from the point where it ended,
on any thread that is not serving:

* carrying over more often changes nothing;
* the routine is called once, with the arguments that the first call left, apart from the linear
  matrix, which is the problem's again, and from status and iterations, which are zero. -/
theorem warm_start_resumes (p : Problem d ε ρ) {g : Gate Thread} {t : Thread} {x₀ : Array Float}
    {received left : Arguments d}
    (returned : (p.watched.solve (ω := ω) g t x₀).problem.routine.calls =
      [⟨d, t, d.counts, received, left, none⟩])
    {t' : Thread} (unused : g.serving t' = none) (k : Nat) :
    let solved := (p.solve (ω := ω) g t x₀).problem
    let carried := solved.run ω (.replicate (k + 1) (g, .warmStart))
    let again := carried.watched.solve (ω := ω) g t' (carried.resolve .current)
    carried = solved.run ω [(g, .warmStart)] ∧
      again.map WatchedEvaluator.evaluator WatchedRoutine.routine =
        carried.solve g t' (carried.resolve .current) ∧
      ∃ resumed left' panic,
        again.problem.routine.calls = [⟨d, t', d.counts, resumed, left', panic⟩] ∧
        resumed.Resumes p.store left := by
  intro solved carried again
  have hcarried : carried = { solved with store := solved.store.warmStart } :=
    run_replicate_warmStart solved g k
  refine ⟨hcarried, carried.solve_watched g t' _, ?_⟩
  obtain ⟨g', hg⟩ : ∃ g', g.grant t d x₀ = .ok g' := by
    cases hg : g.grant t d x₀ with
    | error e =>
      rw [p.watched.solve_refused hg] at returned
      cases returned
    | ok g' => exact ⟨g', rfl⟩
  let x : Vector Float d.unknowns := ⟨x₀, Gate.size_of_grant hg⟩
  -- What the first call left is what was settled after it.
  have hstore : solved.store = (p.store.prepared x).settled left := by
    obtain ⟨hx, hsettled⟩ := p.store_of_calls returned
    have hwatched : (p.watched.solve (ω := ω) g t x₀).problem.store = solved.store :=
      congrArg (fun s : Solved ω d ε ρ => s.problem.store) (p.solve_watched g t x₀)
    exact hwatched.symm.trans hsettled
  have hcurrent : carried.resolve .current = left.point.toArray := by
    rw [hcarried]
    show solved.store.point.received.toArray = _
    rw [hstore]
    rfl
  obtain ⟨g₁, hg₁⟩ := Gate.exists_grant hg unused left.point
  obtain ⟨left', panic', acc'⟩ := carried.account (ω := ω) hg₁
  rw [show again = carried.watched.solve g t' left.point.toArray by rw [← hcurrent]]
  refine ⟨_, left', panic', acc'.calls, ?_⟩
  have hdata : carried.store = ((p.store.prepared x).settled left).warmStart := by
    rw [hcarried, ← hstore]
  rw [hdata]
  exact p.store.resumes_warmStart x left

end Problem

/-! ## A warm start after a panic -/

namespace Script

/-- A problem without nonlinear constraints whose evaluator panics, and whose routine fills buffers
and returns. -/
def stumbling : Problem (small 2 1 0) (EvaluatorScript InnerProblem) (RoutineScript InnerProblem) :=
  .new _ { objective := [[.control (.panic "no value")]] }
    { script := [[
      .objective ⟨2, 1, .own, .own, .own, false⟩, .reals .jacobian (.fill 7.0),
      .reals .linear (.fill 8.0), .reals .point (.fill 9.0), .integers .state .count, .status 6],
      [.panic "no memory"]] }

/-- After its first solve, and with results carried over three times, the routine receives the
padding row of the Jacobian, the point and the state as it left them. -/
theorem warm_start_resumes_stumbling :
    let first := stumbling.watched.solve (ω := Note) .vacant mainThread #[0.5, 1.5]
    let carried := (stumbling.solve (ω := Note) .vacant mainThread #[0.5, 1.5]).problem.run Note
      (.replicate 3 (.vacant, .warmStart))
    let again := carried.watched.solve (ω := Note) .vacant mainThread (carried.resolve .current)
    first.outcome = .panicked (.evaluator "no value") ∧
      ∃ received left resumed left' panic,
        first.problem.routine.calls =
          [⟨_, mainThread, (small 2 1 0).counts, received, left, none⟩] ∧
        left.linear = .replicate _ 8.0 ∧
        again.problem.routine.calls =
          [⟨_, mainThread, (small 2 1 0).counts, resumed, left', panic⟩] ∧
        resumed.Resumes stumbling.store left ∧
        resumed.jacobian = .replicate _ 7.0 ∧ resumed.point = .replicate _ 9.0 ∧
        resumed.state.toArray = #[0, 1, 2] := by
  intro first carried again
  obtain ⟨received, left, hcalls, hlinear, hjacobian, hpoint, hstate⟩ :
      ∃ received left,
        first.problem.routine.calls =
          [⟨_, mainThread, (small 2 1 0).counts, received, left, none⟩] ∧
        left.linear = .replicate _ 8.0 ∧ left.jacobian = .replicate _ 7.0 ∧
        left.point = .replicate _ 9.0 ∧ left.state.toArray = #[0, 1, 2] :=
    ⟨_, _, rfl, rfl, rfl, rfl, rfl⟩
  have hunused : (Gate.vacant : Gate Thread).serving mainThread = none := rfl
  obtain ⟨-, -, resumed, left', panic, hagain, hresumes⟩ :=
    stumbling.warm_start_resumes hcalls hunused 2
  exact ⟨rfl, received, left, resumed, left', panic, hcalls, hlinear, hagain, hresumes,
    hresumes.jacobian.trans hjacobian, hresumes.point.trans hpoint, hresumes.state ▸ hstate⟩

end Script

end NonlinearFit
