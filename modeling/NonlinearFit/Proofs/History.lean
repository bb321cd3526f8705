import NonlinearFit.Proofs.Setters
import NonlinearFit.Proofs.Watching

/-!
# The history of a problem

What becomes of a problem's data depends only on a few things that its steps did: the data that
setters gave, the buffers that routines left, and when results were carried over. `Deed` lists
these things, and a history is a list of deeds, the latest first.

**Steps.** `Problem.deed` is what one step did. A setter gives data unless it is refused, and a solve
either calls the routine once, which makes a `Passage` of the buffers through it, or is refused and
does nothing. Passages are what a watched routine sees (`Problem.calls_watched`).

**Runs.** `Problem.run` runs steps one after the other, each at a gate of its own, so a solve may be
refused at any time, and `Problem.history` lists what they did. The data after a run is what the
history makes of the data of a new problem (`Problem.store_run`), whatever evaluator and routine
are.

**Sessions.** A problem of a session is where a run of its own takes it (`Session.problem_run`), so
what holds of all runs holds in every session.
-/

namespace NonlinearFit

variable {ω : Type} {d : Dimensions} {ε ρ : Type}

/-! ## Calling the routine -/

/-- One call of a routine: the buffers it received, the buffers it left, and the payload of its
panic. -/
structure Passage (d : Dimensions) where
  received : Arguments d
  left : Arguments d
  panic : Option String

/-- The data of a problem after its buffers passed through a routine. -/
def Store.passed (s : Store d) (c : Passage d) : Store d :=
  match c.panic with
  | none => (s.prepared c.received.point).settled c.left
  | some _ => (s.prepared c.received.point).takeBack c.left

namespace Problem

section

variable [Evaluator ω ε] [Routine ω ρ] (p : Problem d ε ρ) {g g' : Gate Thread} {t : Thread}
  {x₀ : Array Float}

/-- The call of the routine during flight `f`, from `x₀`. -/
def passage (ω : Type) {ε ρ : Type} [Evaluator ω ε] [Routine ω ρ] (p : Problem d ε ρ)
    (f : Flight) (x₀ : Vector Float d.unknowns) : Passage d :=
  let left := (p.call (ω := ω) f (p.store.prepared x₀)).1
  ⟨(p.store.prepared x₀).arguments, left.arguments, left.panic⟩

/-- The call of the routine in a solve, unless the solve is refused. -/
def passage? (ω : Type) {ε ρ : Type} [Evaluator ω ε] [Routine ω ρ] (p : Problem d ε ρ)
    (g : Gate Thread) (t : Thread) (x₀ : Array Float) : Option (Passage d) :=
  match h : g.grant t d x₀ with
  | .error _ => none
  | .ok _ => some (p.passage ω (.ofGrant h) ⟨x₀, Gate.size_of_grant h⟩)

theorem passage?_refused {e : Refusal} (h : g.grant t d x₀ = .error e) :
    p.passage? ω g t x₀ = none := by
  unfold passage?
  split
  · rfl
  · next h' => cases h.symm.trans h'

theorem passage?_granted (h : g.grant t d x₀ = .ok g') :
    p.passage? ω g t x₀ = some (p.passage ω (.ofGrant h) ⟨x₀, Gate.size_of_grant h⟩) := by
  unfold passage?
  split
  · next h' => cases h.symm.trans h'
  · next g'' h' =>
    obtain rfl : g' = g'' := Except.ok.inj (h.symm.trans h')
    rfl

/-- **The routine receives the problem's data**, prepared for the call. -/
theorem received_of_passage {c : Passage d} (h : p.passage? ω g t x₀ = some c) :
    c.received = (p.store.prepared c.received.point).arguments := by
  cases hg : g.grant t d x₀ with
  | error e =>
    rw [p.passage?_refused hg] at h
    cases h
  | ok g' =>
    rw [p.passage?_granted hg] at h
    cases h
    rfl

/-- **What a solve does to the data** is what its passage does, and nothing if it is refused. -/
theorem store_solve (g : Gate Thread) (t : Thread) (x₀ : Array Float) :
    (p.solve (ω := ω) g t x₀).problem.store =
      match p.passage? ω g t x₀ with
      | none => p.store
      | some c => p.store.passed c := by
  cases hg : g.grant t d x₀ with
  | error e => rw [p.solve_refused hg, p.passage?_refused hg]
  | ok g' =>
    rw [p.solve_granted hg, p.passage?_granted hg]
    dsimp only [passage]
    generalize p.call (ω := ω) (.ofGrant hg) _ = run
    cases hpanic : run.1.panic with
    | none =>
      rw [conclude_eq_of_return hpanic]
      rfl
    | some payload =>
      rw [conclude_eq_of_panic hpanic]
      rfl

theorem calls_call (f : Flight) (lent : Store d) :
    (p.watched.call (ω := ω) f lent).1.routine.calls =
      [⟨d, f.thread, d.counts, lent.arguments, (p.call (ω := ω) f lent).1.arguments,
        (p.call (ω := ω) f lent).1.panic⟩] := by
  obtain ⟨run, hwatched, hcall⟩ := p.call_watched (ω := ω) f lent
  rw [hwatched, hcall]
  rfl

/-- **Passages are the calls that a watched routine got.** -/
theorem calls_watched (g : Gate Thread) (t : Thread) (x₀ : Array Float) :
    (p.watched.solve (ω := ω) g t x₀).problem.routine.calls =
      (p.passage? ω g t x₀).toList.map fun c =>
        ⟨d, t, d.counts, c.received, c.left, c.panic⟩ := by
  cases hg : g.grant t d x₀ with
  | error e =>
    rw [p.watched.solve_refused hg, p.passage?_refused hg]
    rfl
  | ok g' =>
    rw [p.watched.solve_granted hg, p.passage?_granted hg]
    dsimp only
    rw [routine_conclude]
    exact p.calls_call (.ofGrant hg) _

end

end Problem

/-! ## Deeds -/

/-- What a step did, as far as the data of a problem is concerned. -/
inductive Deed (d : Dimensions) where
  | gave (x : Datum d)
  /-- Results were given to the next solve. -/
  | carried
  | called (c : Passage d)
  /-- The step was refused, or it did not concern the data. -/
  | idle

namespace Store

/-- The data after a deed. -/
def follow (s : Store d) : Deed d → Store d
  | .gave x => s.put x
  | .carried => s.warmStart
  | .called c => s.passed c
  | .idle => s

/-- The data that a history, latest deed first, makes of a new problem's. -/
def after : List (Deed d) → Store d
  | [] => .new d
  | x :: past => (after past).follow x

end Store

namespace Problem

variable [Evaluator ω ε] [Routine ω ρ]

/-- The deed of a step. -/
def deed (ω : Type) {ε ρ : Type} [Evaluator ω ε] [Routine ω ρ] (p : Problem d ε ρ)
    (g : Gate Thread) : Step ε ρ → Deed d
  | .warmStart => .carried
  | .solve start elsewhere =>
    let t := if elsewhere then otherThread mainThread else mainThread
    match p.passage? ω g t (p.resolve start) with
    | some c => .called c
    | none => .idle
  | a =>
    match a.datum? d with
    | some x => .gave x
    | none => .idle

theorem deed_of_datum (p : Problem d ε ρ) (g : Gate Thread) {a : Step ε ρ} {x : Datum d}
    (h : a.datum? d = some x) : p.deed ω g a = .gave x := by
  cases a with
  | warmStart | solve => cases h
  | _ => simp only [deed, h]

theorem deed_of_no_datum (p : Problem d ε ρ) (g : Gate Thread) {a : Step ε ρ}
    (setter : a.isSetter = true) (h : a.datum? d = none) : p.deed ω g a = .idle := by
  cases a with
  | warmStart | solve => cases setter
  | _ => simp only [deed, h]

/-- Only a solve calls the routine, with the data that the problem holds. -/
theorem received_of_deed (p : Problem d ε ρ) {g : Gate Thread} {a : Step ε ρ} {c : Passage d}
    (h : p.deed ω g a = .called c) :
    c.received = (p.store.prepared c.received.point).arguments := by
  cases a with
  | warmStart => cases h
  | solve start elsewhere =>
    simp only [deed] at h
    split at h
    · next c' hc =>
      cases h
      exact p.received_of_passage hc
    · cases h
  | _ =>
    simp only [deed] at h
    split at h <;> cases h

/-- **What a step does to the data** is what its deed does. -/
theorem store_step (p : Problem d ε ρ) (g : Gate Thread) (a : Step ε ρ) :
    (p.step (ω := ω) g a).problem.store = p.store.follow (p.deed ω g a) := by
  cases hsetter : a.isSetter with
  | true =>
    cases h : a.datum? d with
    | some x =>
      rw [p.step_of_datum g h, p.deed_of_datum g h]
      rfl
    | none =>
      obtain ⟨x, hx⟩ | ⟨e, hrefuses⟩ := Step.datum_or_refuses p g hsetter
      · cases h.symm.trans hx
      · obtain ⟨answer, -, hstep⟩ := p.step_of_refuses (ω := ω) g hrefuses
        rw [hstep, p.deed_of_no_datum g hsetter h]
        rfl
  | false =>
    cases a with
    | warmStart | configure | changeEvaluator | changeRoutine => rfl
    | adopt o =>
      cases hcheck : o.check with
      | error e =>
        rw [p.step_adopt_of_error g hcheck]
        rfl
      | ok _ =>
        rw [p.step_adopt_of_ok g hcheck, configureAll_fst]
        rfl
    | solve start elsewhere =>
      show (p.solve (ω := ω) g _ _).problem.store = _
      rw [store_solve]
      simp only [deed]
      cases p.passage? ω g _ (p.resolve start) <;> rfl
    | _ => cases hsetter

/-! ## Runs -/

/-- The problem after some steps, each at a gate of its own. -/
def run (ω : Type) {ε ρ : Type} [Evaluator ω ε] [Routine ω ρ] (p : Problem d ε ρ) :
    List (Gate Thread × Step ε ρ) → Problem d ε ρ
  | [] => p
  | (g, a) :: rest => (p.step (ω := ω) g a).problem.run ω rest

/-- The deeds of some steps, latest first, after those of `past`. -/
def history (ω : Type) {ε ρ : Type} [Evaluator ω ε] [Routine ω ρ] (p : Problem d ε ρ)
    (past : List (Deed d)) : List (Gate Thread × Step ε ρ) → List (Deed d)
  | [] => past
  | (g, a) :: rest => (p.step (ω := ω) g a).problem.history ω (p.deed ω g a :: past) rest

/-- **The data after a run** is what the history says. -/
theorem store_run {p : Problem d ε ρ} {past : List (Deed d)} (h : p.store = .after past)
    (steps : List (Gate Thread × Step ε ρ)) :
    (p.run ω steps).store = .after (p.history ω past steps) := by
  induction steps generalizing p past with
  | nil => exact h
  | cons a rest ih =>
    obtain ⟨g, a⟩ := a
    apply ih
    rw [store_step, h]
    rfl

end Problem

/-! ## What routines received -/

/-- At each call of a history, the routine received the data that the problem held then. -/
def Genuine : List (Deed d) → Prop
  | [] => True
  | .called c :: past =>
    c.received = ((Store.after past).prepared c.received.point).arguments ∧ Genuine past
  | _ :: past => Genuine past

theorem Genuine.deed [Evaluator ω ε] [Routine ω ρ] {past : List (Deed d)} (h : Genuine past)
    {p : Problem d ε ρ} (hp : p.store = .after past) (g : Gate Thread) (a : Step ε ρ) :
    Genuine (p.deed ω g a :: past) := by
  cases hdeed : p.deed ω g a with
  | gave x | carried | idle => exact h
  | called c =>
    refine ⟨?_, h⟩
    rw [← hp]
    exact p.received_of_deed hdeed

/-- **A history is genuine.** -/
theorem Problem.genuine_history [Evaluator ω ε] [Routine ω ρ] {p : Problem d ε ρ}
    {past : List (Deed d)} (hp : p.store = .after past) (h : Genuine past)
    (steps : List (Gate Thread × Step ε ρ)) : Genuine (p.history ω past steps) := by
  induction steps generalizing p past with
  | nil => exact h
  | cons a rest ih =>
    obtain ⟨g, a⟩ := a
    apply ih
    · rw [store_step, hp]
      rfl
    · exact h.deed hp g a

/-! ## Sessions -/

/-- The step that a command makes on problem number `i`, if any. -/
def Command.on? (i : Nat) : Command ε ρ → Option (Step ε ρ)
  | .step j a => if j = i then some a else none
  | .stray _ => none

theorem Command.on?_eq_some_iff {i : Nat} {c : Command ε ρ} {a : Step ε ρ} :
    c.on? i = some a ↔ c = .step i a := by
  cases c with
  | stray c => simp [on?]
  | step j b => by_cases hj : j = i <;> simp [on?, hj]

namespace Session

variable [Evaluator ω ε] [Routine ω ρ]

/-- A command that makes no step on problem number `i` leaves it. -/
theorem problem_step_of_other (s : Session ε ρ) {c : Command ε ρ} {i : Nat} (h : c.on? i = none) :
    (s.step (ω := ω) c).2.2.problems[i]? = s.problems[i]? := by
  cases c with
  | stray c =>
    simp only [step]
    split <;> rfl
  | step j a =>
    by_cases hj : j = i
    · simp only [Command.on?, if_pos hj] at h
      cases h
    · simp only [step]
      cases s.problems[j]? with
      | none => rfl
      | some Q => exact List.getElem?_set_ne hj

/-- One command changes a problem by the step it makes on it. -/
theorem problem_step (s : Session ε ρ) (c : Command ε ρ) {i : Nat} {P : AnyProblem ε ρ}
    (h : s.problems[i]? = some P) :
    (s.step (ω := ω) c).2.2.problems[i]? = some ⟨P.dims,
      P.problem.run ω ((c.on? i).toList.map (s.gate, ·))⟩ := by
  cases hc : c.on? i with
  | none => exact (s.problem_step_of_other hc).trans h
  | some a =>
    obtain rfl := Command.on?_eq_some_iff.mp hc
    have hlt : i < s.problems.length := (List.getElem?_eq_some_iff.mp h).1
    simp only [step, h]
    exact List.getElem?_set_self hlt

/-- **In a session each problem runs by itself**, through the steps that are made on it. -/
theorem problem_run (s : Session ε ρ) (commands : List (Command ε ρ)) {i : Nat}
    {P : AnyProblem ε ρ} (h : s.problems[i]? = some P) :
    (s.run (ω := ω) commands).2.problems[i]? = some ⟨P.dims,
      P.problem.run ω ((commands.filterMap (·.on? i)).map (s.gate, ·))⟩ := by
  induction commands generalizing s P with
  | nil => exact h
  | cons c rest ih =>
    show ((s.step (ω := ω) c).2.2.run (ω := ω) rest).2.problems[i]? = _
    rw [ih _ (s.problem_step (ω := ω) c h), gate_step]
    cases hc : c.on? i with
    | none => rw [List.filterMap_cons_none hc]; rfl
    | some a => rw [List.filterMap_cons_some hc]; rfl

end Session

end NonlinearFit
