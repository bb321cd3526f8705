import NonlinearFit.Proofs.DoubleDifferences
import NonlinearFit.Proofs.Feasibility

/-!
# What status 0 promises

A gradient descent ends with status 0 where the projected unit step moves no variable by more than the
tolerance. It takes the largest of these moves, and the larger of two floats is never one that is not a
number.

**Bounding the largest.** So the largest move is within the tolerance if each one that is a number is
(`stationarity_le_iff`); the others do not count.

**Moves that are not numbers.** Within valid bounds, a move is a number exactly if the component of the
point is finite and that of the gradient is a number (`isNaN_moved_iff`).

Main result: `optimal_steps`, for every evaluator and every starting point. So status 0 is not always an
optimum (`Script.optimum_unfounded`).
-/

namespace NonlinearFit

open GradientDescent

/-! ## The larger of two numbers -/

theorem isNaN_maxNumber {a b : Float} (ha : a.isNaN = false) : (maxNumber a b).isNaN = false := by
  unfold maxNumber
  rw [ha]
  cases hb : b.isNaN with
  | true => exact ha
  | false =>
    show (if a < b then b else a).isNaN = false
    split
    · exact hb
    · exact ha

/-- **The larger of two floats is within a bound** if the first is, and the second one too unless it
is not a number. -/
theorem maxNumber_le_iff {a b bound : Float} (ha : a.isNaN = false) :
    maxNumber a b ≤ bound ↔ a ≤ bound ∧ (b.isNaN = true ∨ b ≤ bound) := by
  unfold maxNumber
  rw [ha]
  cases hb : b.isNaN with
  | true => simp
  | false =>
    show (if a < b then b else a) ≤ bound ↔ _
    by_cases hlt : a < b
    · rw [if_pos hlt]
      refine ⟨fun h => ⟨FloatOrder.le_trans (FloatOrder.le_of_lt hlt) h, .inr h⟩, ?_⟩
      rintro ⟨-, h | h⟩
      · cases h
      · exact h
    · rw [if_neg hlt]
      have hle : b ≤ a := FloatOrder.le_of_not_lt hb ha hlt
      exact ⟨fun h => ⟨h, .inr (FloatOrder.le_trans hle h)⟩, And.left⟩

/-- **The largest of many** is within a bound if the first is, and each of the others too unless it is
not a number. -/
theorem foldl_maxNumber_le_iff {ι : Type} (f : ι → Float) (l : List ι) {m bound : Float}
    (hm : m.isNaN = false) :
    l.foldl (fun m i => maxNumber m (f i)) m ≤ bound ↔
      m ≤ bound ∧ ∀ i ∈ l, (f i).isNaN = true ∨ f i ≤ bound := by
  induction l generalizing m with
  | nil => simp
  | cons i l ih =>
    rw [List.foldl_cons, ih (isNaN_maxNumber hm), maxNumber_le_iff hm, List.forall_mem_cons, and_assoc]

/-! ## Unit steps -/

theorem clamp_of_isNaN {lower upper x : Float} (hx : x.isNaN = true) : clamp lower upper x = x :=
  clamp_of_within (.inl hx)

/-- Between numbers only what is not a number is clamped to what is not. -/
theorem isNaN_clamp {lower upper x : Float} (h : lower ≤ upper) :
    (clamp lower upper x).isNaN = x.isNaN := by
  obtain ⟨hlower, hupper⟩ := FloatOrder.isNumber_of_le h
  cases hx : x.isNaN with
  | true => rw [clamp_of_isNaN hx, hx]
  | false =>
    have hraised : (if x < lower then lower else x).isNaN = false := by
      split
      · exact hlower
      · exact hx
    unfold clamp
    generalize (if x < lower then lower else x) = raised at hraised ⊢
    show (if upper < raised then upper else raised).isNaN = false
    split
    · exact hupper
    · exact hraised

/-- How far a step against `slope` moves a variable. -/
def moved (lower upper x slope : Float) : Float := (clamp lower upper (x - slope) - x).abs

/-- **A move is a number** exactly if the variable is finite and the slope is a number. -/
theorem isNaN_moved_iff {lower upper x slope : Float} (valid : lower ≤ upper)
    (within : Within lower upper x) :
    (moved lower upper x slope).isNaN = true ↔ x.isFinite = false ∨ slope.isNaN = true := by
  rw [moved, Binary64.isNaN_abs, Binary64.isNaN_sub_iff, isNaN_clamp valid, Binary64.isNaN_sub_iff,
    Binary64.isFinite_eq_false_iff]
  constructor
  · rintro ((hx | hslope | ⟨hx, -⟩) | hx | ⟨hinf, hclamp⟩)
    · exact .inl (.inl hx)
    · exact .inr hslope
    · exact .inl (.inr hx)
    · exact .inl (.inl hx)
    · exact .inl (.inr (hclamp ▸ hinf))
  · rintro ((hx | hx) | hslope)
    · exact .inl (.inl hx)
    · -- An infinite variable stays where it is, and its difference to itself is not a number.
      cases hstep : (x - slope).isNaN with
      | true => exact .inl (Binary64.isNaN_sub_iff.mp hstep)
      | false =>
        rw [Binary64.sub_eq_self hx hstep, clamp_of_within within]
        exact .inr (.inr ⟨hx, rfl⟩)
    · exact .inl (.inr (.inl hslope))

namespace GradientDescent

variable {n : Nat}

/-- How far the projected unit step from `x` against `slope` moves variable `i`. -/
def unitStep (b : Box n) (x slope : Vector Float n) (i : Fin n) : Float :=
  moved (b.lower.get i) (b.upper.get i) (x.get i) (slope.get i)

/-- **The largest move is within the tolerance** if each one that is a number is. -/
theorem stationarity_le_iff {b : Box n} {p : Iterate n} {tolerance : Float} :
    stationarity b p ≤ tolerance ↔
      0.0 ≤ tolerance ∧ ∀ i, (unitStep b p.point p.gradient i).isNaN = true ∨
        unitStep b p.point p.gradient i ≤ tolerance := by
  have hfold : stationarity b p = (List.finRange n).foldl
    (fun m i => maxNumber m (unitStep b p.point p.gradient i)) 0.0 := rfl
  rw [hfold, foldl_maxNumber_le_iff _ _ (by decide)]
  simp

/-! ## Runs that end with status 0 -/

variable {ω σ : Type} {d : Dimensions} {r : GradientDescent} {t : Thread} {c : Counts}
  {a : Arguments d} {turns : List (Turn (Query ω) Query.Answer σ)} {left : Departure d GradientDescent}

/-- A run up to the general constraints that ends with status 0 reports a point where the largest move
is within the tolerance. -/
theorem Minimizes.still {a' : Arguments d} {log : List (Evaluation d.unknowns)}
    (h : Minimizes r a log a') (optimal : a'.status = statusOptimal) :
    stationarity (box a) ⟨a'.point, a'.objective, a'.gradient⟩ ≤ r.tolerance := by
  cases h with
  | stopped _ stops =>
    exact absurd (show statusOptimal < 0 from optimal ▸ stops) (by decide)
  | descended _ _ descends => exact descends.still optimal

/-- **So does a whole run.** -/
theorem Departs.still (h : Departs r t c a turns left) (returned : left.panic = none)
    (optimal : left.arguments.status = statusOptimal) :
    (box a).Valid ∧
      stationarity (box a) ⟨left.arguments.point, left.arguments.objective, left.arguments.gradient⟩ ≤
        r.tolerance := by
  cases h with
  | crossed => cases returned
  | finished valid _ minimizes => exact ⟨valid, minimizes.still optimal⟩
  | @constrained turns log a' _ _ v valid _ minimizes =>
    refine ⟨valid, ?_⟩
    have hstatus : (if v.mode < 0 then v.mode else a'.status) = statusOptimal := optimal
    split at hstatus
    · next neg => exact absurd (hstatus ▸ neg) (by decide)
    · exact minimizes.still hstatus

end GradientDescent

/-! ## The main result -/

namespace Problem

variable {ω : Type} {d : Dimensions} {ε : Type} [Evaluator ω ε]

/-- **What status 0 promises.** Consider any solve by a gradient descent that finishes with status 0.
A unit step from the point that it leaves, against the gradient that it leaves, and projected onto the
bounds, moves no variable by more than the tolerance, if the point is finite there and the gradient is a
number. Nothing is promised of the other variables: their moves are not numbers. -/
theorem optimal_steps (p : Problem d ε GradientDescent) {g : Gate Thread} {t : Thread}
    {x₀ : Array Float} (optimal : (p.solve (ω := ω) g t x₀).outcome = .finished ⟨0⟩) :
    let store := (p.solve (ω := ω) g t x₀).problem.store
    let x := store.point.received
    ∀ i : Fin d.unknowns,
      let move := unitStep p.box x store.gradient i
      ((x.get i).isFinite = true ∧ (store.gradient.get i).isNaN = false →
        move ≤ p.routine.tolerance) ∧
      ((x.get i).isFinite = false ∨ (store.gradient.get i).isNaN = true → move.isNaN = true) := by
  cases hgrant : g.grant t d x₀ with
  | error e =>
    rw [p.solve_refused hgrant] at optimal
    cases optimal
  | ok g' =>
    let lent := p.store.prepared ⟨x₀, Gate.size_of_grant hgrant⟩
    let run := p.call (ω := ω) (.ofGrant hgrant) lent
    have hsolved : p.solve (ω := ω) g t x₀ = conclude g lent run.1 run.2 := p.solve_granted hgrant
    have hdeparts := p.departs_call (ω := ω) hgrant
    rw [hsolved] at optimal
    obtain ⟨hpanic, hstatus⟩ := returned_of_finished optimal
    obtain ⟨valid, hstill⟩ := hdeparts.still hpanic (Status.mk.inj hstatus)
    have within := (hdeparts.contains valid).2.1
    obtain ⟨-, hmoves⟩ := stationarity_le_iff.mp hstill
    rw [hsolved, conclude_eq_of_return hpanic]
    intro store x i move
    have hnan : move.isNaN = true ↔ _ := isNaN_moved_iff (valid i) (within i)
    refine ⟨fun ⟨hfinite, hnumber⟩ => ?_, hnan.mpr⟩
    refine (hmoves i).resolve_left fun h => ?_
    rcases hnan.mp h with h | h
    · exact absurd (hfinite.symm.trans h) nofun
    · exact absurd (hnumber.symm.trans h) nofun

end Problem

namespace Script

/-- A descent along the variable ends at its lower bound, where the projected step moves nothing. -/
theorem optimal_steps_bounded :
    let p := bounded 0.0 1.0
    let solved := p.solve (ω := Note) .vacant mainThread #[5.0]
    solved.outcome = .finished ⟨0⟩ ∧
      unitStep p.box solved.problem.store.point.received solved.problem.store.gradient ⟨0, by decide⟩ ≤
        p.routine.tolerance := by
  intro p solved
  have optimal : solved.outcome = .finished ⟨0⟩ := by decide +kernel
  obtain ⟨hmove, -⟩ := p.optimal_steps (ω := Note) optimal ⟨0, by decide⟩
  exact ⟨optimal, hmove (by decide +kernel)⟩

/-- A problem in one variable whose gradient is nowhere a number. -/
def slopeless : Problem (small 1 0 0) (EvaluatorScript InnerProblem) GradientDescent :=
  .new _ { objective := [[.gradientFill (0.0 / 0.0)]] } { maxIterations := 0 }

/-- **Status 0 without an optimum**: the descent finishes with status 0 at once, though the projected
step does not move the variable by at most the tolerance. -/
theorem optimum_unfounded :
    let solved := slopeless.solve (ω := Note) .vacant mainThread #[0.0]
    solved.outcome = .finished ⟨0⟩ ∧
      ¬unitStep slopeless.box solved.problem.store.point.received solved.problem.store.gradient
        ⟨0, by decide⟩ ≤ slopeless.routine.tolerance := by
  decide +kernel

end Script

end NonlinearFit
