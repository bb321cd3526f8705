import NonlinearFit.Proofs.DescentSolves
import NonlinearFit.Proofs.Unwinding

/-!
# Gradient descents stay within the bounds

Every point that a descent hands out has been projected onto the bounds after it was last changed, and
so is the point that it reports. With crossed bounds, or bounds that are not numbers, it panics before
it calls back.

Main result: `bounds_respected`, for every evaluator and every starting point.
-/

namespace NonlinearFit

open GradientDescent

variable {ω : Type} {d : Dimensions} {ε : Type}

namespace GradientDescent

variable {σ : Type} {r : GradientDescent} {t : Thread} {c : Counts} {a : Arguments d}
  {turns : List (Turn (Query ω) Query.Answer σ)} {left : Departure d GradientDescent}

/-- With valid bounds a run calls back at points within them, reports such a point, and does not
panic. -/
theorem Departs.contains (h : Departs r t c a turns left) (valid : (box a).Valid) :
    (∀ u ∈ turns, ∃ x : Vector Float d.unknowns,
      u.query.point? = some x.toArray ∧ (box a).Contains x) ∧
    (box a).Contains left.arguments.point ∧ left.panic = none := by
  have hevaluations {turns : List (Turn (Query ω) Query.Answer σ)} {a' : Arguments d}
      {log : List (Evaluation d.unknowns)}
      (evaluates : List.Forall₂ (Evaluates t c.unknowns) turns log)
      (minimizes : Minimizes r a log a') :
      ∀ u ∈ turns, ∃ x : Vector Float d.unknowns,
        u.query.point? = some x.toArray ∧ (box a).Contains x := by
    intro u hu
    obtain ⟨v, hmem, hv⟩ := exists_evaluation_of_mem evaluates hu
    have hcontains : (box a).Contains v.point := (minimizes.contains valid).1 v hmem
    cases hv
    exact ⟨_, rfl, hcontains⟩
  cases h with
  | crossed crossed => exact absurd crossed (Box.crossed?_ne_some valid)
  | finished _ evaluates minimizes =>
    exact ⟨hevaluations evaluates minimizes, (minimizes.contains valid).2, rfl⟩
  | constrained v _ evaluates minimizes =>
    have hcontains := (minimizes.contains valid).2
    refine ⟨List.forall_mem_append.mpr ⟨hevaluations evaluates minimizes, ?_⟩, hcontains, rfl⟩
    exact List.forall_mem_singleton.mpr ⟨_, rfl, hcontains⟩

/-- Otherwise it panics at once, and writes to no buffer but the one of the point. -/
theorem Departs.crosses (h : Departs r t c a turns left) (crossed : ¬(box a).Valid) :
    turns = [] ∧ ∃ i point, (box a).crossed? = some i ∧
      left = ⟨r, { a with point },
        some (Box.crossedMessage ((box a).lower.get i) ((box a).upper.get i))⟩ := by
  cases h with
  | crossed h => exact ⟨rfl, _, _, h, rfl⟩
  | finished valid | constrained _ valid => exact absurd valid crossed

end GradientDescent

namespace Problem

variable [Evaluator ω ε]

/-- **The bounds are respected.** Consider any admitted solve by a gradient descent. If there is a
number between the bounds of each variable, then every callback comes with a point within the bounds,
and the solve ends with such a point, where components that are not numbers count as within. If not,
the solve panics, with the bounds of the first variable for which it is so, before any callback is
made; evaluator, routine and all that can be read stay as they were, and no solve is left in
flight. -/
theorem bounds_respected (p : Problem d ε GradientDescent) {g g' : Gate Thread} {t : Thread}
    {x₀ : Array Float} (granted : g.grant t d x₀ = .ok g') :
    let solved := p.solve (ω := ω) g t x₀
    (p.box.Valid →
      (∀ u ∈ p.dialogue (ω := ω) g t x₀, ∃ x : Vector Float d.unknowns,
        u.query.point? = some x.toArray ∧ p.box.Contains x) ∧
      p.box.Contains solved.problem.store.point.received) ∧
    (¬p.box.Valid →
      p.dialogue (ω := ω) g t x₀ = [] ∧
      (∃ i : Fin d.unknowns, ¬p.box.lower.get i ≤ p.box.upper.get i ∧
        (∀ j < i, p.box.lower.get j ≤ p.box.upper.get j) ∧
        solved.outcome =
          .panicked (.routine (Box.crossedMessage (p.box.lower.get i) (p.box.upper.get i)))) ∧
      (solved.problem.evaluator = p.evaluator ∧ solved.problem.routine = p.routine ∧
        solved.problem.store.readings = p.store.readings) ∧
      solved.gate = g ∧ solved.gate.claimed = false) := by
  intro solved
  let lent := p.store.prepared ⟨x₀, Gate.size_of_grant granted⟩
  let run := p.call (ω := ω) (.ofGrant granted) lent
  have hsolved : solved = conclude g lent run.1 run.2 := p.solve_granted granted
  have hdeparts : Departs p.routine t d.counts lent.arguments (p.dialogue (ω := ω) g t x₀) run.1 :=
    p.departs_call granted
  constructor
  · intro valid
    obtain ⟨hturns, hpoint, hpanic⟩ := hdeparts.contains valid
    refine ⟨hturns, ?_⟩
    rw [hsolved, conclude_eq_of_return hpanic]
    exact hpoint
  · intro crossed
    obtain ⟨hturns, i, point, hi, hleft⟩ := hdeparts.crosses crossed
    have hgate : solved.gate = g := p.solve_gate g t x₀
    have hunclaimed : g.claimed = false :=
      (Gate.enter?_eq_some_iff.mp (Gate.grant_eq_ok_iff.mp granted).2).2.1
    -- Nothing was asked, so the evaluator is as it was.
    have hserving : run.2.service = p.service := by
      rw [p.dialogue_granted granted] at hturns
      exact congrArg Serving.service (Program.run_of_dialogue_eq_nil _ hturns)
    have hpanic : run.1.panic = some (Box.crossedMessage (p.box.lower.get i) (p.box.upper.get i)) :=
      congrArg Departure.panic hleft
    rw [conclude_eq_of_panic hpanic] at hsolved
    obtain ⟨hlower, hbelow⟩ := Box.crossed?_eq_some_iff.mp hi
    refine ⟨hturns, ⟨i, hlower, hbelow, ?_⟩, ⟨?_, ?_, ?_⟩, hgate, hgate ▸ hunclaimed⟩
    · rw [hsolved]
    · rw [hsolved, hserving]
      rfl
    · rw [hsolved, hleft]
    · rw [hsolved, hleft]
      rfl

end Problem

namespace Script

/-- A problem in one variable with these bounds, whose objective is the variable. -/
def bounded (lower upper : Float) :
    Problem (small 1 0 0) (EvaluatorScript InnerProblem) GradientDescent where
  evaluator := { objective := [[.sum, .gradientFill 1.0]] }
  routine := {}
  store := { Store.new _ with lower := .replicate _ lower, upper := .replicate _ upper }

/-- From outside of its bounds it stays within them, and it panics if they are crossed. -/
theorem bounds_respected_bounded :
    let p := bounded 0.0 1.0
    let q := bounded 1.0 0.0
    ((p.dialogue (ω := Note) .vacant mainThread #[5.0]).length = 2 ∧
      (∀ u ∈ p.dialogue (ω := Note) .vacant mainThread #[5.0], ∃ x : Vector Float 1,
        u.query.point? = some x.toArray ∧ p.box.Contains x) ∧
      p.box.Contains (p.solve (ω := Note) .vacant mainThread #[5.0]).problem.store.point.received) ∧
    (q.solve (ω := Note) .vacant mainThread #[5.0]).outcome =
      .panicked (.routine "min > max, or either was NaN. min = 1.0, max = 0.0") := by
  intro p q
  constructor
  · obtain ⟨hvalid, -⟩ := p.bounds_respected (ω := Note)
      (show Gate.vacant.grant mainThread _ #[5.0] = .ok _ from rfl)
    obtain ⟨hturns, hpoint⟩ := hvalid (by decide +kernel)
    exact ⟨by decide +kernel, hturns, hpoint⟩
  · obtain ⟨-, hcrossed⟩ := q.bounds_respected (ω := Note)
      (show Gate.vacant.grant mainThread _ #[5.0] = .ok _ from rfl)
    obtain ⟨-, ⟨i, -, -, houtcome⟩, -⟩ := hcrossed (by decide +kernel)
    obtain rfl : i = ⟨0, Nat.one_pos⟩ := Fin.ext (Nat.lt_one_iff.mp i.isLt)
    rw [houtcome]
    decide +kernel

end Script

end NonlinearFit
