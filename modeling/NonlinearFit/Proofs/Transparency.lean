import NonlinearFit.Handle
import NonlinearFit.Linkage
import NonlinearFit.Proofs.Windows
import NonlinearFit.Script.Routine

/-!
# Handles and linked libraries are transparent

An evaluator may stand behind handles, and a routine behind handles and behind the calling
convention of a linked library. Nothing of this can be told from outside.

**Passing through.** A handle acts as the value at its end (`Held.simulates_evaluator`,
`Held.simulates_routine`). A mounted routine acts as the routine itself (`Mount.simulates_routine`):
option lines go as bytes and arguments by position, and what is read there on the other side is what
was passed.

**What a routine receives.** An `Attentive` routine keeps a list of the demands that reached it,
each with all that came along. In every run the routine is told the sizes of its problem and the
lengths of its workspaces (`Session.sized_run`).

**Sessions.** A session whose evaluators and routines stand behind handles and linked libraries runs
as the session in which they are held directly (`Session.transparent`).
-/

namespace NonlinearFit

variable {ω : Type} {d : Dimensions} {ε ρ : Type}

/-! ## Handles -/

theorem Evaluator.simulates_of_map {ε' : Type} [Evaluator ω ε] [Evaluator ω ε'] {φ : ε → ε'}
    (objective : ∀ (e : ε) (t : Thread) (r : ObjectiveRequest),
      Evaluator.objective (ω := ω) (φ e) t r = (Evaluator.objective e t r).map (Reply.map φ))
    (constraints : ∀ (e : ε) (t : Thread) (r : ConstraintRequest),
      Evaluator.constraints (ω := ω) (φ e) t r = (Evaluator.constraints e t r).map (Reply.map φ)) :
    Evaluator.Simulates ω φ where
  objective f e t r events := by rw [objective, Serving.consult_map]
  constraints f e t r events := by rw [constraints, Serving.consult_map]

theorem Evaluator.simulates_id [Evaluator ω ε] : Evaluator.Simulates ω (id : ε → ε) :=
  Evaluator.simulates_of_map (fun _ _ _ => (Program.map_id _).symm)
    fun _ _ _ => (Program.map_id _).symm

namespace Held

variable {α β : Type}

theorem value_map (f : α → β) (h : Held α) : (h.map f).value = f h.value := by
  induction h with
  | direct a => rfl
  | owned h ih | loaned h ih => exact ih

/-- The value at the end of a handle. -/
def window : Window (Held α) α := ⟨value, map, value_map⟩

theorem objective_value [Evaluator ω α] (t : Thread) (r : ObjectiveRequest) (h : Held α) :
    Evaluator.objective (ω := ω) h.value t r = (h.objective t r).map (Reply.map value) := by
  induction h with
  | direct a => exact (Program.map_back (f := Reply.map direct) (fun _ => rfl) _).symm
  | owned h ih | loaned h ih =>
    show _ = ((h.objective t r).map _).map _
    rw [Program.map_map]
    exact ih

theorem constraints_value [Evaluator ω α] (t : Thread) (r : ConstraintRequest) (h : Held α) :
    Evaluator.constraints (ω := ω) h.value t r = (h.constraints t r).map (Reply.map value) := by
  induction h with
  | direct a => exact (Program.map_back (f := Reply.map direct) (fun _ => rfl) _).symm
  | owned h ih | loaned h ih =>
    show _ = ((h.constraints t r).map _).map _
    rw [Program.map_map]
    exact ih

/-- **A handle answers as the evaluator at its end.** -/
theorem simulates_evaluator [Evaluator ω α] : Evaluator.Simulates ω (value : Held α → α) :=
  Evaluator.simulates_of_map (fun h t r => objective_value t r h)
    fun h t r => constraints_value t r h

theorem configure_value [Routine ω α] (line : String) (h : Held α) :
    Routine.configure (ω := ω) h.value line = (h.configure line).map value id := by
  induction h with
  | direct a => rfl
  | owned h ih | loaned h ih => exact ih

theorem solve_value [Routine ω α] (t : Thread) (c : Counts) (a : Arguments d) (h : Held α) :
    Routine.solve (ω := ω) h.value t c a = (h.solve t c a).map (Departure.map value) := by
  induction h with
  | direct r => exact (Program.map_back (f := Departure.map direct) (fun _ => rfl) _).symm
  | owned h ih | loaned h ih =>
    show _ = ((h.solve t c a).map _).map _
    rw [Program.map_map]
    exact ih

/-- **A handle acts as the routine at its end.** -/
theorem simulates_routine [Routine ω α] : Routine.Simulates ω (value : Held α → α) where
  configure h line _ := configure_value line h
  solve h t a := solve_value t _ a h

end Held

/-! ## Linked libraries -/

namespace Mount

theorem routine_map {ρ' : Type} (f : ρ → ρ') (m : Mount ρ) :
    (m.map f).routine = f m.routine := by
  cases m <;> rfl

/-- The routine behind a mount. -/
def window : Window (Mount ρ) ρ := ⟨routine, map, routine_map⟩

/-- A library receives an option line as it was passed. -/
theorem configure_linked [Routine ω ρ] (r : ρ) {line : String} (storable : Storable line) :
    Routine.configure (ω := ω) (linked r) line = (Routine.configure r line).map linked id := by
  simp only [Routine.configure, textOf?_toUTF8 storable]

/-- A library receives sizes and buffers as they were passed, and what it leaves is found. -/
theorem solve_linked [Routine ω ρ] (r : ρ) (t : Thread) (a : Arguments d) :
    Routine.solve (ω := ω) (linked r) t d.counts a =
      (Routine.solve r t d.counts a).map (Departure.map linked) := by
  simp only [Routine.solve, arguments?_positional, counts_positional, found_overwritten]
  rfl

/-- **A mounted routine acts as the routine itself.** -/
theorem simulates_routine [Routine ω ρ] : Routine.Simulates ω (routine : Mount ρ → ρ) where
  configure m line storable := by
    cases m with
    | direct r => rfl
    | linked r =>
      rw [configure_linked r storable]
      rfl
  solve m t a := by
    cases m with
    | direct r => exact (Program.map_back (f := Departure.map direct) (fun _ => rfl) _).symm
    | linked r =>
      rw [solve_linked]
      exact (Program.map_back (fun _ => rfl) _).symm

end Mount

theorem Routine.Simulates.comp {ρ' ρ'' : Type} [Routine ω ρ] [Routine ω ρ'] [Routine ω ρ'']
    {ψ : ρ → ρ'} {χ : ρ' → ρ''} (hψ : Routine.Simulates ω ψ) (hχ : Routine.Simulates ω χ) :
    Routine.Simulates ω fun r => χ (ψ r) where
  configure r line storable := by
    rw [hχ.configure _ storable, hψ.configure _ storable]
    rfl
  solve r t a := by
    rw [hχ.solve, hψ.solve, Program.map_map]
    rfl

/-- The routine behind handles and a mount. -/
def Held.routineWindow : Window (Held (Mount ρ)) ρ := Held.window.comp Mount.window

/-- **Handles and mounts together act as the routine itself.** -/
theorem Held.simulates_routineWindow [Routine ω ρ] :
    Routine.Simulates ω (Held.routineWindow (ρ := ρ)).see :=
  Held.simulates_routine.comp Mount.simulates_routine

/-! ## What a routine receives -/

/-- What a routine is asked to do, with all that it receives. -/
inductive Demand where
  | configure (line : String)
  | solve (d : Dimensions) (t : Thread) (c : Counts) (a : Arguments d)

/-- Whether the sizes that the routine is told are those of the problem, and the lengths of the
workspaces are those of the buffers that stand for them. -/
def Demand.Sized : Demand → Prop
  | configure _ => True
  | solve d _ c a => c = d.counts ∧ c.integerWork.toInt = a.integerWork.toArray.size ∧
      c.realWork.toInt = a.realWork.toArray.size

theorem Demand.sized_solve (t : Thread) (a : Arguments d) : (solve d t d.counts a).Sized := by
  have hinteger : d.counts.integerWork.toInt = d.integerWork :=
    Integer.toInt_ofCount d.integerWork_le
  have hreal : d.counts.realWork.toInt = d.realWork := Integer.toInt_ofCount d.realWork_le
  refine ⟨rfl, ?_, ?_⟩
  · rw [hinteger, Vector.size_toArray]
  · rw [hreal, Vector.size_toArray]

/-- A routine with the demands that reached it. -/
structure Attentive (ρ : Type) where
  routine : ρ
  demands : List Demand

namespace Attentive

instance [Routine ω ρ] : Routine ω (Attentive ρ) where
  configure r line :=
    (Routine.configure r.routine line).map (⟨·, r.demands ++ [.configure line]⟩) id
  solve {d} r t c a := (Routine.solve r.routine t c a).map
    (Departure.map (⟨·, r.demands ++ [.solve d t c a]⟩))

/-- A routine that no demand has reached. -/
def unasked (r : ρ) : Attentive ρ := ⟨r, []⟩

/-- The routine that attends. -/
def window : Window (Attentive ρ) ρ :=
  ⟨routine, fun f r => ⟨f r.routine, r.demands⟩, fun _ _ => rfl⟩

/-- **Attending does not change a routine.** -/
theorem simulates_routine [Routine ω ρ] : Routine.Simulates ω (routine : Attentive ρ → ρ) where
  configure _ _ _ := rfl
  solve _ _ _ := (Program.map_back (fun _ => rfl) _).symm

/-- Whether all demands so far were sized. -/
def Sized (r : Attentive ρ) : Prop := ∀ x ∈ r.demands, x.Sized

theorem sized_unasked (r : ρ) : (unasked r).Sized := fun _ h => absurd h List.not_mem_nil

theorem Sized.append {r r' : Attentive ρ} {x : Demand} (h : r.Sized) (hx : x.Sized)
    (hr' : r'.demands = r.demands ++ [x]) : r'.Sized := by
  intro y hy
  rw [hr'] at hy
  rcases List.mem_append.mp hy with hy | hy
  · exact h y hy
  · rwa [List.mem_singleton.mp hy]

theorem Sized.configure [Routine ω ρ] {r : Attentive ρ} (h : r.Sized) (line : String) :
    (Routine.configure (ω := ω) r line).1.Sized :=
  h.append (x := .configure line) trivial rfl

theorem Sized.configureAll [Routine ω ρ] {r : Attentive ρ} (h : r.Sized) (lines : List String) :
    (lines.foldl (fun r line => (Routine.configure (ω := ω) r line).1) r).Sized := by
  induction lines generalizing r with
  | nil => exact h
  | cons line rest ih => exact ih (h.configure line)

end Attentive

namespace Problem

variable [Evaluator ω ε] [Routine ω ρ] {p : Problem d ε (Attentive ρ)}

theorem sized_call (h : p.routine.Sized) (f : Flight) (lent : Store d) :
    (p.call (ω := ω) f lent).1.routine.Sized := by
  let x : Demand := .solve d f.thread d.counts lent.arguments
  have hrun := Program.run_map (Serving.answer f)
    (Departure.map (Attentive.mk · (p.routine.demands ++ [x])))
    (Routine.solve p.routine.routine f.thread d.counts lent.arguments)
    (⟨p.service, #[.trace (.callingRoutine d)]⟩ : Serving ω ε d.nonlinear d.unknowns)
  have hx : x.Sized := Demand.sized_solve f.thread lent.arguments
  exact h.append hx (congrArg (·.1.routine.demands) hrun)

theorem sized_solve (h : p.routine.Sized) (g : Gate Thread) (t : Thread) (x₀ : Array Float) :
    (p.solve (ω := ω) g t x₀).problem.routine.Sized := by
  cases hg : g.grant t d x₀ with
  | error e =>
    rw [p.solve_refused hg]
    exact h
  | ok g' =>
    rw [p.solve_granted hg]
    dsimp only
    rw [routine_conclude]
    exact sized_call h _ _

/-- **Every step demands with the right sizes.** -/
theorem sized_step (h : p.routine.Sized) (g : Gate Thread) (a : Step ε ρ) :
    (p.step (ω := ω) g (a.through .self Attentive.window)).problem.routine.Sized := by
  have hupdate (x : Except Refusal (Store d)) :
      (p.update (ω := ω) g x).problem.routine.Sized := by
    cases x <;> exact h
  cases a with
  | configure line => exact h.configure line
  | adopt o =>
    simp only [Step.through]
    cases hcheck : o.check with
    | error e =>
      rw [p.step_adopt_of_error g hcheck]
      exact h
    | ok _ =>
      rw [p.step_adopt_of_ok g hcheck, configureAll_fst]
      exact h.configureAll o.lines
  | changeEvaluator | changeRoutine => exact h
  | solve start elsewhere => exact sized_solve h g _ _
  | _ => exact hupdate _

end Problem

namespace Session

/-- Whether all demands on routines so far were sized. -/
def Sized (s : Session ε (Attentive ρ)) : Prop := ∀ P ∈ s.problems, P.problem.routine.Sized

variable [Evaluator ω ε] [Routine ω ρ]

theorem sized_step {s : Session ε (Attentive ρ)} (h : s.Sized) (c : Command ε ρ) :
    (s.step (ω := ω) (c.through .self Attentive.window)).2.2.Sized := by
  cases c with
  | stray c =>
    simp only [Command.through, step]
    split <;> exact h
  | step i a =>
    simp only [Command.through, step]
    cases hi : s.problems[i]? with
    | none => exact h
    | some P =>
      intro Q hQ
      rcases List.mem_or_eq_of_mem_set hQ with hQ | rfl
      · exact h Q hQ
      · exact Problem.sized_step (h P (List.mem_of_getElem? hi)) s.gate a

/-- **In a run every demand is sized.** -/
theorem sized_run {s : Session ε (Attentive ρ)} (h : s.Sized) (commands : List (Command ε ρ)) :
    (s.run (ω := ω) (commands.map (·.through .self Attentive.window))).2.Sized := by
  induction commands generalizing s with
  | nil => exact h
  | cons c rest ih => exact ih (sized_step h c)

end Session

/-! ## Transparency -/

namespace Session

/-- The session whose problems hold evaluators and routines directly. -/
def direct (s : Session (Held ε) (Held (Mount ρ))) : Session ε ρ :=
  s.map Held.window.see Held.routineWindow.see

/-- The session whose routines attend to what they receive, at the end of the same handles. -/
def attentive (s : Session (Held ε) (Held (Mount ρ))) :
    Session (Held ε) (Held (Mount (Attentive ρ))) :=
  s.map id (Held.map (Mount.map Attentive.unasked))

theorem direct_attentive (s : Session (Held ε) (Held (Mount ρ))) :
    s.attentive.direct = s.direct.map id Attentive.unasked := by
  have hroutine (h : Held (Mount ρ)) :
      (h.map (Mount.map Attentive.unasked)).value.routine = Attentive.unasked h.value.routine := by
    rw [Held.value_map, Mount.routine_map]
  simp only [attentive, direct, map, List.map_map]
  congr 1
  apply List.map_congr_left
  intro P _
  simp only [Function.comp, AnyProblem.map, Problem.map, Held.routineWindow, Window.comp,
    Held.window, Mount.window, hroutine, id]

/-- Behind the attention is the session itself. -/
theorem map_unasked (s : Session ε ρ) :
    (s.map id Attentive.unasked).map id Attentive.routine = s := by
  have hback : (AnyProblem.map id Attentive.routine) ∘ (AnyProblem.map id Attentive.unasked) =
      (id : AnyProblem ε ρ → AnyProblem ε ρ) := rfl
  show (⟨s.gate, (s.problems.map _).map _⟩ : Session ε ρ) = s
  rw [List.map_map, hback, List.map_id]

theorem sized_unasked (s : Session ε ρ) : (s.map id Attentive.unasked).Sized := by
  intro P hP
  obtain ⟨Q, -, rfl⟩ := List.mem_map.mp hP
  exact Attentive.sized_unasked Q.problem.routine

variable [Evaluator ω ε] [Routine ω ρ]

/-- **Handles and linked libraries are transparent.** Commands on problems whose evaluators and
routines stand behind handles and linked libraries have the same effect as on problems that hold
them directly:

* reports and events are the same, and so is the session in the end;
* when the routines attend to what they receive, which changes nothing, each has received the same
  option lines and the same arguments, with the sizes of its problem and the lengths of its
  workspaces;
* in each solve the routine asks the same and is answered the same. -/
theorem transparent (s : Session (Held ε) (Held (Mount ρ))) (commands : List (Command ε ρ))
    (storable : ∀ c ∈ commands, ∀ line ∈ c.line?, Storable line) :
    let behind := s.run (ω := ω) (commands.map (·.through Held.window Held.routineWindow))
    let plain := s.direct.run (ω := ω) commands
    let attending := commands.map (·.through .self (Attentive.window (ρ := ρ)))
    let behindHeard := s.attentive.run (ω := ω)
      (attending.map (·.through Held.window Held.routineWindow))
    let plainHeard := (s.direct.map id Attentive.unasked).run (ω := ω) attending
    (behind.1 = plain.1 ∧ behind.2.direct = plain.2) ∧
      (plainHeard.1 = plain.1 ∧ plainHeard.2.map id Attentive.routine = plain.2) ∧
      (behindHeard.1 = plainHeard.1 ∧ behindHeard.2.direct = plainHeard.2) ∧
      behindHeard.2.direct.Sized ∧
      ∀ {d : Dimensions} (p : Problem d (Held ε) (Held (Mount ρ))) (g : Gate Thread) (t : Thread)
        (x₀ : Array Float),
        (p.map Held.window.see Held.routineWindow.see).dialogue (ω := ω) g t x₀ =
          (p.dialogue g t x₀).map (Turn.map (Serving.map Held.window.see)) := by
  intro behind plain attending behindHeard plainHeard
  have hplain : plain = (behind.1, behind.2.direct) :=
    s.run_map (v := Held.window) (w := Held.routineWindow) Held.simulates_evaluator
      Held.simulates_routineWindow storable
  have hattending : plain = (plainHeard.1, plainHeard.2.map id Attentive.routine) := by
    have h := (s.direct.map id Attentive.unasked).run_map (ω := ω) (v := .self)
      (w := Attentive.window) Evaluator.simulates_id Attentive.simulates_routine storable
    show s.direct.run (ω := ω) commands = _
    rw [← map_unasked s.direct]
    exact h
  have hstorable : ∀ c ∈ attending, ∀ line ∈ c.line?, Storable line := by
    intro c hc
    obtain ⟨c', hc', rfl⟩ := List.mem_map.mp hc
    rw [Command.line?_through]
    exact storable c' hc'
  have hheard : plainHeard = (behindHeard.1, behindHeard.2.direct) := by
    show (s.direct.map id Attentive.unasked).run (ω := ω) attending = _
    rw [← direct_attentive]
    exact s.attentive.run_map (v := Held.window) (w := Held.routineWindow)
      Held.simulates_evaluator Held.simulates_routineWindow hstorable
  have hsized : plainHeard.2.Sized := sized_run s.direct.sized_unasked commands
  refine ⟨?_, ?_, ?_, ?_, ?_⟩
  · rw [hplain]
    exact ⟨rfl, rfl⟩
  · rw [hattending]
    exact ⟨rfl, rfl⟩
  · rw [hheard]
    exact ⟨rfl, rfl⟩
  · rw [hheard] at hsized
    exact hsized
  · intro d p g t x₀
    exact p.dialogue_map Held.simulates_evaluator Held.simulates_routineWindow g t x₀

end Session

/-! ## A problem behind handles and a linked library -/

namespace Script

/-- A problem whose evaluator stands behind two handles, and whose routine stands behind two handles
and a linked library. The routine calls the objective and returns. -/
def handled : ScriptedProblem where
  dims := small 2 1 0
  problem := .new _ (.owned (.loaned (.direct { objective := [[.value 3.0]] })))
    (.loaned (.loaned (.direct (.linked ⟨.script { script := [[
      .objective ⟨2, 1, .own, .own, .own, false⟩, .iterations 4, .status 0]] }⟩))))

/-- The routine receives the given line, the line of the options and the call, in this order. -/
theorem transparent_handled :
    let commands : List (Command (EvaluatorScript InnerProblem)
        (Recorded (AnyRoutine InnerProblem))) :=
      [.step 0 (.configure "Verify Level 0"), .step 0 (.adopt { list := some true }),
        .step 0 (.solve (.given #[0.5, 0.5]) false)]
    let attending := commands.map (·.through .self Attentive.window)
    let s := Session.start [handled]
    let heard := (s.attentive.run (ω := Note)
      (attending.map (·.through Held.window Held.routineWindow))).2.direct
    (s.run (ω := Note) (commands.map (·.through Held.window Held.routineWindow))).1 =
        (s.direct.run (ω := Note) commands).1 ∧
      heard.Sized ∧
      ∃ a, heard.problems.map (·.problem.routine.demands) =
        [[.configure "Verify Level 0", .configure "List",
          .solve (small 2 1 0) mainThread (small 2 1 0).counts a]] := by
  intro commands attending s heard
  obtain ⟨⟨hreports, -⟩, -, ⟨-, hheard⟩, hsized, -⟩ :=
    s.transparent (ω := Note) commands (by decide +kernel)
  refine ⟨hreports, hsized, ?_⟩
  have h : heard = _ := hheard
  rw [h]
  exact ⟨_, rfl⟩

end Script

end NonlinearFit
