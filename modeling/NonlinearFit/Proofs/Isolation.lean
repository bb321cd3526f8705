import NonlinearFit.Proofs.History

/-!
# The problems of a session are isolated

Problems of a session share the gate and nothing else, and every step gives the gate back as it was.
So no step on one problem can be noticed by another, however it ends.

**Episodes.** An `Episode` is what shows of a command on a problem: the report, the events, all that
routine and evaluator were asked and told during a solve (`Dealings`), and the problem afterwards.

**Two sessions.** Sessions that have the same gate and the same problem number `i` agree on that
problem (`Session.Agrees`), whatever their other problems are. A step on it shows the same in both
(`Session.Agrees.episode_eq`), and they agree again after it (`Session.Agrees.step`). Any other
command leaves a session that agrees with what it was (`Session.agrees_step_of_other`). So runs of
both show the same of the problem, with the other commands or without (`Session.Agrees.run`).

Main result: `isolated`, for every session, problem and list of commands.
-/

namespace NonlinearFit

variable {ω : Type} {d : Dimensions} {ε ρ : Type}

/-! ## Episodes -/

/-- What passed between a problem, its routine and its evaluator during a solve. -/
structure Dealings (ω : Type) where
  /-- What the routine asked, and how it was answered. -/
  turns : List (Σ q : Query ω, q.Answer)
  /-- The requests that reached the evaluator. -/
  requests : List EvaluatorCall
  /-- The calls that the routine got. -/
  calls : List RoutineCall

/-- Only a solve calls the routine and asks the evaluator. -/
def Problem.dealings (ω : Type) {ε ρ : Type} [Evaluator ω ε] [Routine ω ρ] (p : Problem d ε ρ)
    (g : Gate Thread) : Step ε ρ → Dealings ω
  | .solve start elsewhere =>
    let t := if elsewhere then otherThread mainThread else mainThread
    let watched := p.watched.solve (ω := ω) g t (p.resolve start)
    ⟨(p.dialogue g t (p.resolve start)).map fun u => ⟨u.query, u.answer⟩,
      watched.problem.evaluator.calls, watched.problem.routine.calls⟩
  | _ => ⟨[], [], []⟩

/-- What shows of a command on a problem. -/
structure Episode (ω ε ρ : Type) where
  report : Report
  events : Array (Event ω)
  dealings : Option (Dealings ω)
  /-- The problem after the command. -/
  after : Option (AnyProblem ε ρ)

/-- Whether a command makes a step on problem number `i`. -/
def Command.concerns (i : Nat) (c : Command ε ρ) : Bool := (c.on? i).isSome

namespace Session

section

variable (ω : Type) {ε ρ : Type} [Evaluator ω ε] [Routine ω ρ]

/-- What shows of the command `c` on problem number `i`. -/
def episode (i : Nat) (s : Session ε ρ) (c : Command ε ρ) : Episode ω ε ρ where
  report := (s.step (ω := ω) c).1
  events := (s.step c).2.1
  dealings := do
    let a ← c.on? i
    let P ← s.problems[i]?
    return P.problem.dealings ω s.gate a
  after := (s.step (ω := ω) c).2.2.problems[i]?

/-- The episodes of problem number `i` in a run. -/
def episodes (i : Nat) (s : Session ε ρ) : List (Command ε ρ) → List (Episode ω ε ρ)
  | [] => []
  | c :: rest =>
    let later := episodes i (s.step (ω := ω) c).2.2 rest
    if c.concerns i then episode ω i s c :: later else later

/-- What a run reported of the steps on problem number `i`, with the events of these steps. -/
def reports (i : Nat) (s : Session ε ρ) (commands : List (Command ε ρ)) :
    List (Report × Array (Event ω)) :=
  ((commands.zip (s.run commands).1).filter (·.1.concerns i)).map Prod.snd

end

/-! ## Two sessions -/

/-- Two sessions have the same gate and the same problem number `i`. -/
structure Agrees (i : Nat) (s s' : Session ε ρ) : Prop where
  gate : s.gate = s'.gate
  problem : s.problems[i]? = s'.problems[i]?

variable [Evaluator ω ε] [Routine ω ρ] {i : Nat} {s s' : Session ε ρ}

/-- **A command on a problem shows the same in sessions that agree on the problem.** -/
theorem Agrees.episode_eq (h : Agrees i s s') {c : Command ε ρ} (hc : c.concerns i = true) :
    s.episode ω i c = s'.episode ω i c := by
  obtain ⟨a, ha⟩ := Option.isSome_iff_exists.mp hc
  obtain rfl := Command.on?_eq_some_iff.mp ha
  cases hP : s.problems[i]? with
  | none =>
    have hP' : s'.problems[i]? = none := h.problem.symm.trans hP
    simp only [episode, step, hP, hP']
    rfl
  | some P =>
    have hP' : s'.problems[i]? = some P := h.problem.symm.trans hP
    simp only [episode, problem_step _ _ hP, problem_step _ _ hP', h.gate]
    simp only [step, hP, hP', h.gate]

/-- **Agreement lasts through a command on the problem.** -/
theorem Agrees.step (h : Agrees i s s') {c : Command ε ρ} (hc : c.concerns i = true) :
    Agrees i (s.step (ω := ω) c).2.2 (s'.step (ω := ω) c).2.2 where
  gate := by rw [gate_step, gate_step, h.gate]
  problem := congrArg Episode.after (h.episode_eq (ω := ω) hc)

/-- **Any other command goes unnoticed.** -/
theorem agrees_step_of_other (s : Session ε ρ) {c : Command ε ρ} (hc : c.concerns i = false) :
    Agrees i (s.step (ω := ω) c).2.2 s where
  gate := gate_step s c
  problem := s.problem_step_of_other (Option.not_isSome_iff_eq_none.mp (Bool.eq_false_iff.mp hc))

theorem Agrees.trans {s'' : Session ε ρ} (h : Agrees i s s') (h' : Agrees i s' s'') :
    Agrees i s s'' :=
  ⟨h.gate.trans h'.gate, h.problem.trans h'.problem⟩

theorem episodes_cons_of_concerns (s : Session ε ρ) {c : Command ε ρ} (hc : c.concerns i = true)
    (rest : List (Command ε ρ)) :
    s.episodes ω i (c :: rest) =
      s.episode ω i c :: (s.step (ω := ω) c).2.2.episodes ω i rest :=
  if_pos hc

theorem episodes_cons_of_other (s : Session ε ρ) {c : Command ε ρ} (hc : c.concerns i = false)
    (rest : List (Command ε ρ)) :
    s.episodes ω i (c :: rest) = (s.step (ω := ω) c).2.2.episodes ω i rest :=
  if_neg (Bool.eq_false_iff.mp hc)

/-- **A run shows the same as the run without the other commands**, in any session that agrees on the
problem. -/
theorem Agrees.run (h : Agrees i s s') (commands : List (Command ε ρ)) :
    s.episodes ω i commands = s'.episodes ω i (commands.filter (·.concerns i)) ∧
      Agrees i (s.run (ω := ω) commands).2
        (s'.run (ω := ω) (commands.filter (·.concerns i))).2 := by
  induction commands generalizing s s' with
  | nil => exact ⟨rfl, h⟩
  | cons c rest ih =>
    cases hc : c.concerns i with
    | true =>
      obtain ⟨hepisodes, hagrees⟩ := ih (h.step (ω := ω) hc)
      rw [List.filter_cons_of_pos hc, s.episodes_cons_of_concerns hc,
        s'.episodes_cons_of_concerns hc, h.episode_eq hc, hepisodes]
      exact ⟨rfl, hagrees⟩
    | false =>
      obtain ⟨hepisodes, hagrees⟩ := ih ((agrees_step_of_other (ω := ω) s hc).trans h)
      rw [List.filter_cons_of_neg (Bool.eq_false_iff.mp hc), s.episodes_cons_of_other hc, hepisodes]
      exact ⟨rfl, hagrees⟩

/-- **The reports of a run are those of its episodes.** -/
theorem reports_eq (s : Session ε ρ) (i : Nat) (commands : List (Command ε ρ)) :
    s.reports ω i commands = (s.episodes ω i commands).map fun x => (x.report, x.events) := by
  induction commands generalizing s with
  | nil => rfl
  | cons c rest ih =>
    have hrun : (s.run (ω := ω) (c :: rest)).1 =
        ((s.step c).1, (s.step c).2.1) :: ((s.step (ω := ω) c).2.2.run rest).1 := rfl
    have hrest := ih (s.step (ω := ω) c).2.2
    unfold reports at hrest ⊢
    rw [hrun, List.zip_cons_cons, List.filter_cons]
    cases hc : c.concerns i with
    | true =>
      rw [if_pos rfl, s.episodes_cons_of_concerns hc, List.map_cons, hrest]
      rfl
    | false => rw [if_neg Bool.false_ne_true, s.episodes_cons_of_other hc, hrest]

theorem length_run (s : Session ε ρ) (commands : List (Command ε ρ)) :
    (s.run (ω := ω) commands).1.length = commands.length := by
  induction commands generalizing s with
  | nil => rfl
  | cons c rest ih => exact congrArg (· + 1) (ih (s.step (ω := ω) c).2.2)

/-- If all commands concern a problem, all reports do. -/
theorem reports_of_concerns (s : Session ε ρ) {commands : List (Command ε ρ)}
    (h : ∀ c ∈ commands, c.concerns i = true) :
    s.reports ω i commands = (s.run (ω := ω) commands).1 := by
  unfold reports
  rw [List.filter_eq_self.mpr fun x hx => h x.1 (List.of_mem_zip hx).1]
  exact List.map_snd_zip (Nat.le_of_eq (s.length_run commands))

/-! ## The main theorem -/

/-- **The problems of a session are isolated from one another.** Take the steps on one problem out of
any list of commands, and run these alone:

* every one of them shows the same as before: the report, the events, the queries of the routine and
  their answers, the requests that reached the evaluator, the calls of the routine, and the problem
  afterwards;
* so the session reports the same of them, and nothing else;
* the problem ends up the same. -/
theorem isolated (s : Session ε ρ) (i : Nat) (commands : List (Command ε ρ)) :
    let own := commands.filter (·.concerns i)
    s.episodes ω i commands = s.episodes ω i own ∧
    s.reports ω i commands = (s.run own).1 ∧
    (s.run (ω := ω) commands).2.problems[i]? = (s.run (ω := ω) own).2.problems[i]? := by
  intro own
  have hown : ∀ c ∈ own, c.concerns i = true := fun c hc => (List.mem_filter.mp hc).2
  have hsame : Agrees i s s := ⟨rfl, rfl⟩
  obtain ⟨hepisodes, hagrees⟩ := hsame.run (ω := ω) commands
  refine ⟨hepisodes, ?_, hagrees.problem⟩
  rw [reports_eq, hepisodes, ← reports_eq, s.reports_of_concerns hown]

end Session

end NonlinearFit
