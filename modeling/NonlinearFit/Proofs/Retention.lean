import NonlinearFit.Proofs.History
import NonlinearFit.Script.Routine

/-!
# Inputs that solves retain

Linear matrix, Jacobian, multipliers and Hessian factor go to the routine as copies. Whatever the
routine does to these, the data that was given stays for the next solve.

**Channels.** Three of the four also come back. A `Channel` says where in the routine's buffers one
of them stands, and reads two values out of a history: `Channel.output`, what the last routine that
returned has left, and `Channel.input`, what was given last, by a setter or by carrying the output
over. `Channel.Carries.after` shows for any channel that the stored data is just that.

Main result: `inputs_retained`, for every run of a new problem.
-/

namespace NonlinearFit

variable {ω : Type} {d : Dimensions} {ε ρ : Type}

/-! ## Data that setters give -/

namespace Datum

def linear? : Datum d → Option (Matrix d.linear d.unknowns)
  | .linear m => some m
  | _ => none

def jacobian? : Datum d → Option (Matrix d.nonlinear d.unknowns)
  | .jacobian m => some m
  | _ => none

def hessian? : Datum d → Option (Matrix d.unknowns d.unknowns)
  | .hessian m => some m
  | _ => none

def multipliers? : Datum d → Option (Vector Float d.bounds)
  | .multipliers v => some v
  | _ => none

end Datum

/-- The linear matrix that was given last, zero if none was. -/
def lastLinear : List (Deed d) → Matrix d.linear d.unknowns
  | [] => .zeros ..
  | .gave x :: past => x.linear?.getD (lastLinear past)
  | _ :: past => lastLinear past

theorem linearPart_after (past : List (Deed d)) :
    (Store.after past).linearPart = lastLinear past := by
  induction past with
  | nil => exact Matrix.top_zeros ..
  | cons x past ih =>
    cases x with
    | gave x =>
      cases x with
      | linear m => exact Matrix.top_setTop ..
      | _ => exact ih
    | called c =>
      show ((Store.after past).passed c).linearPart = _
      unfold Store.passed
      split <;> exact ih
    | carried | idle => exact ih

/-! ## Channels -/

/-- Data that a setter gives and that a routine leaves behind. -/
structure Channel (d : Dimensions) (α : Type) where
  given? : Datum d → Option α
  left : Arguments d → α
  zero : α

namespace Channel

variable {α : Type} (b : Channel d α)

/-- What the last routine that returned has left, zero if none has returned. -/
def output : List (Deed d) → α
  | [] => b.zero
  | .called c :: past =>
    match c.panic with
    | none => b.left c.left
    | some _ => output past
  | _ :: past => output past

/-- What a setter gave last, or the output as it was when results were carried over since; zero if
neither has happened. -/
def input : List (Deed d) → α
  | [] => b.zero
  | .gave x :: past => (b.given? x).getD (input past)
  | .carried :: past => b.output past
  | _ :: past => input past

/-- `given` and `received` read the channel's data out of a store: every deed changes them as it
changes input and output. -/
structure Carries (b : Channel d α) (given received : Store d → α) : Prop where
  new_given : given (.new d) = b.zero
  new_received : received (.new d) = b.zero
  put_given : ∀ s x, given (s.put x) = (b.given? x).getD (given s)
  put_received : ∀ s x, received (s.put x) = received s
  warm_given : ∀ s, given s.warmStart = received s
  warm_received : ∀ s, received s.warmStart = received s
  takeBack_given : ∀ (s : Store d) x₀ a, given ((s.prepared x₀).takeBack a) = given s
  takeBack_received : ∀ (s : Store d) x₀ a, received ((s.prepared x₀).takeBack a) = received s
  settled_given : ∀ (s : Store d) x₀ a, given ((s.prepared x₀).settled a) = given s
  settled_received : ∀ (s : Store d) x₀ a, received ((s.prepared x₀).settled a) = b.left a

variable {b} {given received : Store d → α}

/-- Passing through a routine does not change what was given. -/
theorem Carries.passed_given (h : b.Carries given received) (s : Store d) (c : Passage d) :
    given (s.passed c) = given s := by
  unfold Store.passed
  split
  · exact h.settled_given s _ _
  · exact h.takeBack_given s _ _

/-- **Input and output are what is stored.** -/
theorem Carries.after (h : b.Carries given received) (past : List (Deed d)) :
    given (.after past) = b.input past ∧ received (.after past) = b.output past := by
  induction past with
  | nil => exact ⟨h.new_given, h.new_received⟩
  | cons x past ih =>
    obtain ⟨hgiven, hreceived⟩ := ih
    cases x with
    | gave x =>
      constructor
      · exact (h.put_given _ x).trans (congrArg (b.given? x).getD hgiven)
      · exact (h.put_received _ x).trans hreceived
    | carried => exact ⟨(h.warm_given _).trans hreceived, (h.warm_received _).trans hreceived⟩
    | called c =>
      refine ⟨(h.passed_given _ c).trans hgiven, ?_⟩
      show received ((Store.after past).passed c) = _
      cases hpanic : c.panic with
      | none =>
        simp only [Store.passed, output, hpanic]
        exact h.settled_received _ _ _
      | some payload =>
        simp only [Store.passed, output, hpanic]
        exact (h.takeBack_received _ _ _).trans hreceived
    | idle => exact ⟨hgiven, hreceived⟩

/-! ## The three channels -/

/-- The Jacobian, without padding. -/
def jacobian : Channel d (Matrix d.nonlinear d.unknowns) where
  given? := Datum.jacobian?
  left a := (ColumnMajor.toMatrix ⟨a.jacobian⟩).top _ d.nonlinear_le_jacobianRows
  zero := .zeros ..

def multipliers : Channel d (Vector Float d.bounds) where
  given? := Datum.multipliers?
  left a := a.multipliers
  zero := .replicate _ 0.0

def hessian : Channel d (Matrix d.unknowns d.unknowns) where
  given? := Datum.hessian?
  left a := ColumnMajor.toMatrix ⟨a.hessian⟩
  zero := .zeros ..

theorem carries_jacobian :
    (jacobian (d := d)).Carries Store.jacobianGiven Store.jacobianReceived where
  new_given := Matrix.top_zeros ..
  new_received := Matrix.top_zeros ..
  put_given s x := by
    cases x with
    | jacobian m => exact Matrix.top_setTop ..
    | _ => rfl
  put_received s x := by cases x <;> rfl
  warm_given _ := rfl
  warm_received _ := rfl
  takeBack_given _ _ _ := rfl
  takeBack_received _ _ _ := rfl
  settled_given _ _ _ := rfl
  settled_received _ _ _ := rfl

theorem carries_multipliers :
    (multipliers (d := d)).Carries (·.multipliers.given) (·.multipliers.received) where
  new_given := rfl
  new_received := rfl
  put_given s x := by cases x <;> rfl
  put_received s x := by cases x <;> rfl
  warm_given _ := rfl
  warm_received _ := rfl
  takeBack_given _ _ _ := rfl
  takeBack_received _ _ _ := rfl
  settled_given _ _ _ := rfl
  settled_received _ _ _ := rfl

theorem carries_hessian :
    (hessian (d := d)).Carries (·.hessian.given) (·.hessian.received) where
  new_given := rfl
  new_received := rfl
  put_given s x := by cases x <;> rfl
  put_received s x := by cases x <;> rfl
  warm_given _ := rfl
  warm_received _ := rfl
  takeBack_given _ _ _ := rfl
  takeBack_received _ _ _ := rfl
  settled_given _ _ _ := rfl
  settled_received _ _ _ := rfl

end Channel

/-! ## Solves -/

/-- The data that was given is the same in both stores. -/
structure Store.SameInputs (s s' : Store d) : Prop where
  linear : s.linearPart = s'.linearPart
  jacobian : s.jacobianGiven = s'.jacobianGiven
  multipliers : s.multipliers.given = s'.multipliers.given
  hessian : s.hessian.given = s'.hessian.given

theorem Store.sameInputs_passed (s : Store d) (c : Passage d) : (s.passed c).SameInputs s := by
  unfold passed
  split <;> exact ⟨rfl, rfl, rfl, rfl⟩

namespace Problem

variable [Evaluator ω ε] [Routine ω ρ]

/-- **No solve changes what was given.** -/
theorem sameInputs_solve (p : Problem d ε ρ) (g : Gate Thread) (t : Thread) (x₀ : Array Float) :
    (p.solve (ω := ω) g t x₀).problem.store.SameInputs p.store := by
  rw [store_solve]
  cases p.passage? ω g t x₀ with
  | none => exact ⟨rfl, rfl, rfl, rfl⟩
  | some c => exact p.store.sameInputs_passed c

/-- **Inputs are retained.** After any run of steps on a new problem, whatever its evaluator and its
routine do:

* the linear matrix is the one that was given last;
* Jacobian, multipliers and Hessian factor for the next solve are what a setter gave last, or the
  outputs that were carried over since;
* these outputs are what the last routine that returned has left;
* a solve changes none of the four inputs, however it ends. -/
theorem inputs_retained (e : ε) (r : ρ) (steps : List (Gate Thread × Step ε ρ)) :
    let p := (Problem.new d e r).run ω steps
    let past := (Problem.new d e r).history ω [] steps
    p.store.linearPart = lastLinear past ∧
    (p.store.jacobianGiven = Channel.jacobian.input past ∧
      p.store.multipliers.given = Channel.multipliers.input past ∧
      p.store.hessian.given = Channel.hessian.input past) ∧
    (p.store.jacobianReceived = Channel.jacobian.output past ∧
      p.store.multipliers.received = Channel.multipliers.output past ∧
      p.store.hessian.received = Channel.hessian.output past) ∧
    ∀ (g : Gate Thread) (t : Thread) (x₀ : Array Float),
      (p.solve (ω := ω) g t x₀).problem.store.SameInputs p.store := by
  intro p past
  have hstore : p.store = .after past := store_run rfl steps
  obtain ⟨hjacobian, hjacobian'⟩ := Channel.carries_jacobian.after past
  obtain ⟨hmultipliers, hmultipliers'⟩ := Channel.carries_multipliers.after past
  obtain ⟨hhessian, hhessian'⟩ := Channel.carries_hessian.after past
  refine ⟨?_, ?_, ?_, p.sameInputs_solve⟩
  · rw [hstore]
    exact linearPart_after past
  · rw [hstore]
    exact ⟨hjacobian, hmultipliers, hhessian⟩
  · rw [hstore]
    exact ⟨hjacobian', hmultipliers', hhessian'⟩

end Problem

/-- What a routine leaves in the multipliers is for the next solve only when it is carried over. -/
example :
    let p : Problem (Script.small 1 0 0) (Script.EvaluatorScript Script.InnerProblem)
        (Script.RoutineScript Script.InnerProblem) :=
      .new _ {} { script := [[.reals .multipliers (.fill 7.0)]] }
    let steps := [(.vacant, .setMultipliers #[1.0]), (.vacant, .solve (.given #[0.5]) false)]
    (p.run Script.Note steps).store.multipliers.given = .replicate _ 1.0 ∧
      (p.run Script.Note (steps ++ [(.vacant, .warmStart)])).store.multipliers.given =
        .replicate _ 7.0 :=
  ⟨rfl, rfl⟩

end NonlinearFit
