import NonlinearFit.Proofs.Reachable
import NonlinearFit.Proofs.Watching
import NonlinearFit.Script.Routine

/-!
# What a routine is handed and what is taken back

A solve hands its routine the sizes of the problem (`Counts.Tells`) and the problem's data in flat
buffers (`Arguments.Presents`). When the routine returns, what it left is readable
(`Store.Reports`).

**Layout.** Entry `(i, j)` of a matrix with `rows` rows stands at place `j * rows + i` of its buffer,
on the way there (`ColumnMajor.getElem?_ofMatrix`) and on the way back
(`ColumnMajor.getElem?_flat`). A matrix with a padding row is handed over with the padding.

Main result: `handover`, for every problem of a reachable session.
-/

namespace NonlinearFit

variable {ω : Type} {d : Dimensions} {ε ρ : Type}

/-! ## Places in a buffer -/

namespace ColumnMajor

variable {rows cols : Nat} {α : Type}

theorem getElem?_flat (b : ColumnMajor rows cols α) (i : Fin rows) (j : Fin cols) :
    b.flat[j.val * rows + i.val]? = some (b.get i j) :=
  Vector.getElem?_eq_getElem (place i j).isLt

theorem getElem?_ofMatrix (m : Matrix rows cols α) (i : Fin rows) (j : Fin cols) :
    (ofMatrix m).flat[j.val * rows + i.val]? = some (m.get i j) := by
  rw [getElem?_flat, get_ofMatrix]

theorem getElem?_eq_get_toMatrix (b : ColumnMajor rows cols α) (i : Fin rows) (j : Fin cols) :
    b.flat[j.val * rows + i.val]? = some (b.toMatrix.get i j) := by
  rw [getElem?_flat, toMatrix, Matrix.get_ofFn]

end ColumnMajor

/-! ## Sizes -/

/-- The integers that a routine is told are the sizes of the problem. -/
structure Counts.Tells (c : Counts) (d : Dimensions) : Prop where
  unknowns : c.unknowns.toInt = d.unknowns
  linear : c.linear.toInt = d.linear
  nonlinear : c.nonlinear.toInt = d.nonlinear
  linearRows : c.linearRows.toInt = d.linearRows
  jacobianRows : c.jacobianRows.toInt = d.jacobianRows
  hessianRows : c.hessianRows.toInt = d.unknowns
  integerWork : c.integerWork.toInt = d.integerWork
  realWork : c.realWork.toInt = d.realWork

/-- **No size is too large for the routine's integers.** -/
theorem Dimensions.tells_counts (d : Dimensions) : d.counts.Tells d := by
  have hpos := d.unknowns_pos
  have hle := d.bounds_le
  have hl : d.linearRows = max d.linear 1 := rfl
  have hj : d.jacobianRows = max d.nonlinear 1 := rfl
  unfold boundCount at hle
  constructor
  case integerWork => exact Integer.toInt_ofCount d.integerWork_le
  case realWork => exact Integer.toInt_ofCount d.realWork_le
  all_goals exact Integer.toInt_ofCount (by omega)

/-! ## Data -/

/-- The arguments are what a call from `x₀` of a problem with the data `s` has to get: matrices
column after column, and the rest as it is. -/
structure Arguments.Presents (a : Arguments d) (s : Store d) (x₀ : Vector Float d.unknowns) :
    Prop where
  linear : ∀ (i : Fin d.linearRows) (j : Fin d.unknowns),
    a.linear[j.val * d.linearRows + i.val]? = some (s.linear.get i j)
  jacobian : ∀ (i : Fin d.jacobianRows) (j : Fin d.unknowns),
    a.jacobian[j.val * d.jacobianRows + i.val]? = some (s.jacobian.given.get i j)
  hessian : ∀ i j : Fin d.unknowns,
    a.hessian[j.val * d.unknowns + i.val]? = some (s.hessian.given.get i j)
  multipliers : a.multipliers = s.multipliers.given
  point : a.point = x₀
  status : a.status = 0
  iterations : a.iterations = 0
  lower : a.lower = s.lower
  upper : a.upper = s.upper
  state : a.state = s.state
  values : a.values = s.values
  objective : a.objective = s.objective
  gradient : a.gradient = s.gradient
  integerWork : a.integerWork = s.integerWork
  realWork : a.realWork = s.realWork

/-- The data shows what a routine left in its arguments. -/
structure Store.Reports (s : Store d) (a : Arguments d) : Prop where
  jacobian : ∀ (i : Fin d.nonlinear) (j : Fin d.unknowns),
    a.jacobian[j.val * d.jacobianRows + i.val]? = some (s.jacobianReceived.get i j)
  padding : ∀ (i : Fin d.jacobianRows) (j : Fin d.unknowns),
    a.jacobian[j.val * d.jacobianRows + i.val]? = some (s.jacobian.received.get i j)
  hessian : ∀ i j : Fin d.unknowns,
    a.hessian[j.val * d.unknowns + i.val]? = some (s.hessian.received.get i j)
  multipliers : s.multipliers.received = a.multipliers
  point : s.point.received = a.point
  state : s.state = a.state
  values : ∀ i : Fin d.nonlinear, a.values[i.val]? = some s.nonlinearValues[i]
  objective : s.objective = a.objective
  gradient : s.gradient = a.gradient
  status : s.status = some ⟨a.status⟩
  iterations : s.iterations = a.iterations

theorem Store.presents_prepared (s : Store d) (x₀ : Vector Float d.unknowns) :
    (s.prepared x₀).arguments.Presents s x₀ where
  linear := ColumnMajor.getElem?_ofMatrix s.linear
  jacobian := ColumnMajor.getElem?_ofMatrix s.jacobian.given
  hessian := ColumnMajor.getElem?_ofMatrix s.hessian.given
  multipliers := rfl
  point := rfl
  status := rfl
  iterations := rfl
  lower := rfl
  upper := rfl
  state := rfl
  values := rfl
  objective := rfl
  gradient := rfl
  integerWork := rfl
  realWork := rfl

theorem Store.reports_settled (s : Store d) (a : Arguments d) : (s.settled a).Reports a where
  jacobian i j := by
    rw [jacobianReceived, Matrix.get_top]
    exact ColumnMajor.getElem?_eq_get_toMatrix ⟨a.jacobian⟩ (i.castLE d.nonlinear_le_jacobianRows) j
  padding := ColumnMajor.getElem?_eq_get_toMatrix ⟨a.jacobian⟩
  hessian := ColumnMajor.getElem?_eq_get_toMatrix ⟨a.hessian⟩
  multipliers := rfl
  point := rfl
  state := rfl
  values i := by
    have hi : i.val < d.jacobianRows := Nat.lt_of_lt_of_le i.isLt d.nonlinear_le_jacobianRows
    rw [Vector.getElem?_eq_getElem hi]
    simp [nonlinearValues, settled, takeBack]
  objective := rfl
  gradient := rfl
  status := rfl
  iterations := rfl

/-! ## Admission -/

/-- At a vacant gate every starting point of the right length is admitted. -/
theorem Gate.grant_vacant (t : Thread) (x₀ : Vector Float d.unknowns) :
    ∃ g, vacant.grant t d x₀.toArray = .ok g :=
  ⟨_, grant_eq_ok_iff.mpr ⟨x₀.size_toArray, enter?_eq_some_iff.mpr ⟨rfl, rfl, rfl⟩⟩⟩

/-- **Handing over and taking back.** A solve of a problem of a reachable session, from a starting
point of the right length, calls the routine once. The call tells it the sizes of the problem and
presents the data that the problem holds. If the routine returns, the problem reports what the
routine left, and the solve ends with the routine's status, unless the evaluator panicked. -/
theorem Session.Reachable.handover [Evaluator ω ε] [Routine ω ρ] {s : Session ε ρ}
    (hs : s.Reachable ω) :
    ∀ P ∈ s.problems, ∀ (t : Thread) (x₀ : Vector Float P.dims.unknowns),
      let after := P.problem.watched.solve (ω := ω) s.gate t x₀.toArray
      after.map WatchedEvaluator.evaluator WatchedRoutine.routine =
        P.problem.solve s.gate t x₀.toArray ∧
      ∃ received left panic,
        after.problem.routine.calls = [⟨P.dims, t, P.dims.counts, received, left, panic⟩] ∧
        P.dims.counts.Tells P.dims ∧ received.Presents P.problem.store x₀ ∧
        (panic = none →
          after.problem.store.Reports left ∧
          after.outcome =
            match after.problem.evaluator.firstPanic with
            | none => .finished ⟨left.status⟩
            | some payload => .panicked (.evaluator payload)) := by
  intro P _ t x₀
  obtain ⟨g, hg⟩ := Gate.grant_vacant (d := P.dims) t x₀
  rw [hs.gate]
  obtain ⟨left, panic, acc⟩ := P.problem.account (ω := ω) hg
  refine ⟨P.problem.solve_watched .vacant t x₀.toArray,
    _, left, panic, acc.calls, P.dims.tells_counts, P.problem.store.presents_prepared x₀, ?_⟩
  intro hpanic
  obtain ⟨houtcome, hstore⟩ := acc.returned hpanic
  refine ⟨hstore ▸ Store.reports_settled _ left, ?_⟩
  rw [houtcome]
  cases WatchedEvaluator.firstPanic _ <;> rfl

/-! ## A session with a solve behind it -/

namespace Script

/-- A problem without nonlinear constraints whose routine fills the state and the padding row of the
Jacobian. -/
def filler : ScriptedProblem where
  dims := ⟨2, 1, 0, by decide, by decide, by decide, by decide⟩
  problem := .new _ (.direct { objective := [[.value 3.0]] })
    (.direct (.direct ⟨.script { script := [[
      .objective ⟨2, 1, .own, .own, .own, false⟩, .integers .state .count,
      .reals .jacobian .count, .status 7]] }⟩))

/-- The session of that problem after it has been solved once. -/
def filled : Session ScriptEvaluator ScriptRoutine :=
  ((Session.start [filler]).run (ω := Note)
    [.step 0 (.setMultipliers #[1.0, 2.0, 3.0]), .step 0 (.solve (.given #[0.5, 1.5]) false)]).2

theorem filled_problems : filled.problems ≠ [] := nofun

theorem reachable_filled : filled.Reachable Note := by
  refine .run (.start fun P hP => ?_) _
  rw [List.mem_singleton.mp hP]
  rfl

/-- The next solve of that problem hands over the state that the first one left. -/
theorem handover_filled :
    let P := filled.problems.head filled_problems
    let x₀ : Vector Float P.dims.unknowns := .replicate _ 0.5
    let after := P.problem.watched.solve (ω := Note) filled.gate mainThread x₀.toArray
    P.problem.store.state.toArray = #[0, 1, 2] ∧
      ∃ received left,
        after.problem.routine.calls =
          [⟨P.dims, mainThread, P.dims.counts, received, left, none⟩] ∧
        received.Presents P.problem.store x₀ ∧ after.problem.store.Reports left ∧
        after.outcome = .finished ⟨7⟩ := by
  intro P x₀ after
  obtain ⟨-, received, left, panic, hcalls, -, hpresents, hreturned⟩ :=
    Session.Reachable.handover reachable_filled P (List.head_mem filled_problems) mainThread x₀
  have hpanic : after.problem.routine.calls.map RoutineCall.panic = [none] := rfl
  rw [hcalls] at hpanic
  obtain rfl : panic = none := (List.cons.inj hpanic).1
  exact ⟨rfl, received, left, hcalls, hpresents, (hreturned rfl).1, rfl⟩

end Script

end NonlinearFit
