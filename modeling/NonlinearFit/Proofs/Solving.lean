import NonlinearFit.Problem.Solve
import NonlinearFit.Proofs.Dialogue

/-!
# What a solve does, as equations

A solve that is refused changes nothing (`solve_refused`). One that is admitted prepares the
buffers, runs the routine on them, and concludes (`solve_granted`).

**Copies never fail.** The stored buffers have the shapes that the copies ask for, so preparing is
a function, `Store.prepared`, and so is making readable what the routine left, `Store.settled`.

**Conclusions.** `conclude_eq_of_return` and `conclude_eq_of_panic` say what becomes of a solve
whose routine returned or panicked.

**Dialogue.** `Problem.dialogue` lists what the routine asked during a solve and how it was
answered. It can be cut at any turn (`dialogue_split`).
-/

namespace NonlinearFit

variable {ω : Type} {d : Dimensions} {ε ρ : Type}

/-! ## Buffers around a call -/

namespace Store

/-- The buffers as a call from `x₀` finds them. -/
def prepared (s : Store d) (x₀ : Vector Float d.unknowns) : Store d :=
  { s with
    point := ⟨x₀, x₀, s.point.received⟩
    linearLent := .ofMatrix s.linear
    jacobian.lent := .ofMatrix s.jacobian.given
    multipliers.lent := s.multipliers.given
    hessian.lent := .ofMatrix s.hessian.given }

/-- The buffers after a routine has returned and left `a`. -/
def settled (s : Store d) (a : Arguments d) : Store d :=
  { s.takeBack a with
    point := ⟨s.point.given, a.point, a.point⟩
    hessian := ⟨s.hessian.given, ⟨a.hessian⟩, ColumnMajor.toMatrix ⟨a.hessian⟩⟩
    multipliers := ⟨s.multipliers.given, a.multipliers, a.multipliers⟩
    jacobian := ⟨s.jacobian.given, ⟨a.jacobian⟩, ColumnMajor.toMatrix ⟨a.jacobian⟩⟩
    status := some ⟨a.status⟩
    iterations := a.iterations }

theorem lend_eq_prepared (s : Store d) (x₀ : Vector Float d.unknowns) :
    s.lend x₀ = .ok (s.prepared x₀) :=
  s.lend_eq x₀

theorem collect_takeBack (s : Store d) (a : Arguments d) :
    (s.takeBack a).collect ⟨a.status⟩ a.iterations = .ok (s.settled a) :=
  (s.takeBack a).collect_eq _ _

end Store

/-! ## The end of a solve -/

namespace Problem

/-- How a solve ends whose routine returned with `status`: the panic that the evaluator left
behind comes out, if there is one. -/
def returnOutcome (status : Status) : Option String → Outcome
  | some payload => .panicked (.evaluator payload)
  | none => .finished status

theorem conclude_eq_of_return {g : Gate Thread} {lent : Store d} {left : Departure d ρ}
    (h : left.panic = none) (s : Serving ω ε d.nonlinear d.unknowns) :
    conclude g lent left s =
      ⟨returnOutcome ⟨left.arguments.status⟩ s.service.panic,
        ⟨s.service.evaluator, left.routine, lent.settled left.arguments⟩, g,
        s.events.push (.trace (.routineReturned ⟨left.arguments.status⟩ left.arguments.iterations
          left.arguments.objective))⟩ := by
  unfold conclude
  rw [h]
  simp only [Store.collect_takeBack]
  cases s.service.panic <;> rfl

theorem conclude_eq_of_panic {g : Gate Thread} {lent : Store d} {left : Departure d ρ}
    {payload : String} (h : left.panic = some payload)
    (s : Serving ω ε d.nonlinear d.unknowns) :
    conclude g lent left s =
      ⟨.panicked (.routine payload),
        ⟨s.service.evaluator, left.routine, lent.takeBack left.arguments⟩, g, s.events⟩ := by
  unfold conclude
  rw [h]

/-- **If a solve finishes**, its routine returned with that status. -/
theorem returned_of_finished {g : Gate Thread} {lent : Store d} {left : Departure d ρ}
    {s : Serving ω ε d.nonlinear d.unknowns} {status : Status}
    (h : (conclude g lent left s).outcome = .finished status) :
    left.panic = none ∧ ⟨left.arguments.status⟩ = status := by
  cases hpanic : left.panic with
  | some payload =>
    rw [conclude_eq_of_panic hpanic] at h
    cases h
  | none =>
    rw [conclude_eq_of_return hpanic] at h
    refine ⟨rfl, ?_⟩
    cases hkept : s.service.panic with
    | some payload =>
      rw [hkept] at h
      cases h
    | none =>
      rw [hkept] at h
      exact Outcome.finished.inj h

theorem evaluator_conclude (g : Gate Thread) (lent : Store d) (left : Departure d ρ)
    (s : Serving ω ε d.nonlinear d.unknowns) :
    (conclude g lent left s).problem.evaluator = s.service.evaluator := by
  cases h : left.panic with
  | none => rw [conclude_eq_of_return h]
  | some payload => rw [conclude_eq_of_panic h]

theorem routine_conclude (g : Gate Thread) (lent : Store d) (left : Departure d ρ)
    (s : Serving ω ε d.nonlinear d.unknowns) :
    (conclude g lent left s).problem.routine = left.routine := by
  cases h : left.panic with
  | none => rw [conclude_eq_of_return h]
  | some payload => rw [conclude_eq_of_panic h]

/-! ## The whole solve -/

section

variable [Evaluator ω ε] [Routine ω ρ] (p : Problem d ε ρ) {g g' : Gate Thread} {t : Thread}
  {x₀ : Array Float}

theorem solve_refused {e : Refusal} (h : g.grant t d x₀ = .error e) :
    p.solve (ω := ω) g t x₀ = ⟨.refused e, p, g, #[]⟩ := by
  unfold solve
  split
  · next e' h' =>
    obtain rfl : e = e' := Except.error.inj (h.symm.trans h')
    rfl
  · next h' => exact absurd (h.symm.trans h') nofun

/-- **An admitted solve** runs the routine on the prepared buffers and gives the gate back as it
was. -/
theorem solve_granted (h : g.grant t d x₀ = .ok g') :
    p.solve (ω := ω) g t x₀ =
      let lent := p.store.prepared ⟨x₀, Gate.size_of_grant h⟩
      let run := p.call (ω := ω) (.ofGrant h) lent
      conclude g lent run.1 run.2 := by
  unfold solve
  split
  · next h' => exact absurd (h.symm.trans h') nofun
  · next g'' h' =>
    obtain rfl : g' = g'' := Except.ok.inj (h.symm.trans h')
    simp only [Store.lend_eq_prepared, Gate.leave_of_enter (Gate.grant_eq_ok_iff.mp h).2]

/-- What the routine asked during a solve, and how it was answered. A refused solve has no
dialogue. -/
def dialogue (g : Gate Thread) (t : Thread) (x₀ : Array Float) :
    List (Turn (Query ω) Query.Answer (Serving ω ε d.nonlinear d.unknowns)) :=
  match h : g.grant t d x₀ with
  | .error _ => []
  | .ok _ =>
    (Routine.solve p.routine t d.counts
        (p.store.prepared ⟨x₀, Gate.size_of_grant h⟩).arguments).dialogue
      (Serving.answer (.ofGrant h)) ⟨p.service, #[.trace (.callingRoutine d)]⟩

theorem dialogue_refused {e : Refusal} (h : g.grant t d x₀ = .error e) :
    p.dialogue (ω := ω) g t x₀ = [] := by
  unfold dialogue
  split
  · rfl
  · next h' => exact absurd (h.symm.trans h') nofun

theorem dialogue_granted (h : g.grant t d x₀ = .ok g') :
    p.dialogue (ω := ω) g t x₀ =
      (Routine.solve p.routine t d.counts
          (p.store.prepared ⟨x₀, Gate.size_of_grant h⟩).arguments).dialogue
        (Serving.answer (.ofGrant h)) ⟨p.service, #[.trace (.callingRoutine d)]⟩ := by
  unfold dialogue
  split
  · next h' => exact absurd (h.symm.trans h') nofun
  · next g'' h' =>
    obtain rfl : g' = g'' := Except.ok.inj (h.symm.trans h')
    rfl

/-- **After each turn of a solve** the routine goes on as a program. Its run from there on ends with
the evaluator that the solve ends with. -/
theorem dialogue_split
    {earlier later : List (Turn (Query ω) Query.Answer (Serving ω ε d.nonlinear d.unknowns))}
    {u : Turn (Query ω) Query.Answer (Serving ω ε d.nonlinear d.unknowns)}
    (cut : p.dialogue (ω := ω) g t x₀ = earlier ++ u :: later) :
    ∃ (g' : Gate Thread) (h : g.grant t d x₀ = .ok g') (rest : Calling ω (Departure d ρ)),
      (u.answer, u.after) = Serving.answer (.ofGrant h) u.query u.before ∧
      later = rest.dialogue (Serving.answer (.ofGrant h)) u.after ∧
      (p.solve (ω := ω) g t x₀).problem.evaluator =
        (rest.run (Serving.answer (.ofGrant h)) u.after).2.service.evaluator := by
  obtain ⟨g', h⟩ : ∃ g', g.grant t d x₀ = .ok g' := by
    cases h : g.grant t d x₀ with
    | error e =>
      rw [dialogue_refused _ h] at cut
      exact absurd cut.symm (by simp)
    | ok g' => exact ⟨g', rfl⟩
  rw [dialogue_granted _ h] at cut
  obtain ⟨rest, hlater, hrun⟩ := Program.dialogue_split _ cut
  obtain ⟨ha, hs⟩ := Program.handle_of_mem_dialogue _
    (cut ▸ List.mem_append_right earlier List.mem_cons_self)
  refine ⟨g', h, rest, Prod.ext ha hs, hlater, ?_⟩
  rw [solve_granted p h, evaluator_conclude, ← hrun]
  rfl

/-- **A solve leaves the gate as it found it**, however it ends. -/
theorem solve_gate (g : Gate Thread) (t : Thread) (x₀ : Array Float) :
    (p.solve (ω := ω) g t x₀).gate = g := by
  cases h : g.grant t d x₀ with
  | error e => rw [solve_refused p h]
  | ok g' =>
    rw [solve_granted p h]
    cases hl : (p.call (ω := ω) (.ofGrant h)
        (p.store.prepared ⟨x₀, Gate.size_of_grant h⟩)).1.panic with
    | none => exact congrArg Solved.gate (conclude_eq_of_return hl _)
    | some payload => exact congrArg Solved.gate (conclude_eq_of_panic hl _)

end

end Problem

end NonlinearFit
