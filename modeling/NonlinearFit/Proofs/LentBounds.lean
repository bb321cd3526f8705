import NonlinearFit.Proofs.History
import NonlinearFit.Script.Routine

/-!
# Bounds are lent as they are

A solve lends the stored bounds to the routine themselves, not copies of them. So what the routine
writes there stays, and the next solve starts from it.

**Held and written.** `Bounds.held` reads out of a history the bounds that the problem holds: those
that the setters wrote, in order, or the last routine left. `Bounds.written` reads the ones that
the setters wrote alone. The two agree as long as routines leave the bounds as they received them
(`Bounds.held_eq_written`), and a single routine that does not makes them differ
(`Script.bounds_overwritten`).

Main result: `bounds_lent`, for every run of a new problem.
-/

namespace NonlinearFit

variable {ω : Type} {d : Dimensions} {ε ρ : Type}

/-- Bounds of all variables and constraints. -/
@[ext]
structure Bounds (d : Dimensions) where
  lower : Vector Float d.bounds
  upper : Vector Float d.bounds

def Store.bounds (s : Store d) : Bounds d := ⟨s.lower, s.upper⟩

def Arguments.bounds (a : Arguments d) : Bounds d := ⟨a.lower, a.upper⟩

/-! ## Bounds in a history -/

namespace Bounds

/-- The bounds of a new problem. -/
def unbounded (d : Dimensions) : Bounds d :=
  ⟨.replicate _ (-Store.unbounded), .replicate _ Store.unbounded⟩

/-- The bounds after `x` was given. -/
def put (b : Bounds d) : Datum d → Bounds d
  | .bounds lower upper => ⟨lower, upper⟩
  | .lower v => { b with lower := v }
  | .upper v => { b with upper := v }
  | .bound ⟨i, hi⟩ lower upper => ⟨b.lower.set i lower hi, b.upper.set i upper hi⟩
  | .linear _ | .jacobian _ | .hessian _ | .multipliers _ | .state _ => b

/-- What setters wrote, in order. -/
def written : List (Deed d) → Bounds d
  | [] => unbounded d
  | .gave x :: past => (written past).put x
  | _ :: past => written past

/-- What setters wrote and routines left, in order. -/
def held : List (Deed d) → Bounds d
  | [] => unbounded d
  | .gave x :: past => (held past).put x
  | .called c :: _ => c.left.bounds
  | _ :: past => held past

end Bounds

theorem Store.bounds_put (s : Store d) (x : Datum d) : (s.put x).bounds = s.bounds.put x := by
  cases x <;> rfl

/-- **A routine has the last word on the bounds**, whether it returns or panics. -/
theorem Store.bounds_passed (s : Store d) (c : Passage d) :
    (s.passed c).bounds = c.left.bounds := by
  unfold passed
  split <;> rfl

theorem Store.bounds_after (past : List (Deed d)) : (after past).bounds = .held past := by
  induction past with
  | nil => rfl
  | cons x past ih =>
    cases x with
    | gave x =>
      show ((after past).put x).bounds = (Bounds.held past).put x
      rw [bounds_put, ih]
    | called c => exact bounds_passed _ c
    | carried | idle => exact ih

/-- The bounds that a routine receives are those that the problem holds. -/
theorem bounds_received {s : Store d} {c : Passage d}
    (h : c.received = (s.prepared c.received.point).arguments) : c.received.bounds = s.bounds := by
  rw [h]
  rfl

/-- **Routines that keep the bounds** leave them as the setters wrote them. -/
theorem Bounds.held_eq_written {past : List (Deed d)} (genuine : Genuine past)
    (kept : ∀ c, .called c ∈ past → c.left.bounds = c.received.bounds) :
    held past = written past := by
  induction past with
  | nil => rfl
  | cons x past ih =>
    have hpast (c : Passage d) (hc : .called c ∈ past) : c.left.bounds = c.received.bounds :=
      kept c (List.mem_cons_of_mem _ hc)
    cases x with
    | gave x =>
      show (held past).put x = (written past).put x
      rw [ih genuine hpast]
    | called c =>
      obtain ⟨hreceived, genuine⟩ := genuine
      calc c.left.bounds = c.received.bounds := kept c List.mem_cons_self
        _ = (Store.after past).bounds := bounds_received hreceived
        _ = held past := Store.bounds_after past
        _ = written past := ih genuine hpast
    | carried | idle => exact ih genuine hpast

/-! ## The main result -/

namespace Problem

variable [Evaluator ω ε] [Routine ω ρ]

/-- **Bounds are lent.** After any run of steps on a new problem:

* the bounds are what setters wrote and routines left, in order;
* a solve hands these bounds to the routine, and holds afterwards what the routine left in them; a
  solve that is refused changes nothing;
* if every routine left the bounds as it received them, they are what the setters wrote. -/
theorem bounds_lent (e : ε) (r : ρ) (steps : List (Gate Thread × Step ε ρ)) :
    let p := (Problem.new d e r).run ω steps
    let past := (Problem.new d e r).history ω [] steps
    p.store.bounds = .held past ∧
    (∀ (g : Gate Thread) (t : Thread) (x₀ : Array Float),
      let after := (p.solve (ω := ω) g t x₀).problem.store
      match p.passage? ω g t x₀ with
      | none => after.bounds = p.store.bounds
      | some c => c.received.bounds = p.store.bounds ∧ after.bounds = c.left.bounds) ∧
    ((∀ c, .called c ∈ past → c.left.bounds = c.received.bounds) →
      p.store.bounds = .written past) := by
  intro p past
  have hnew : (Problem.new d e r).store = .after [] := rfl
  have hgenuine : Genuine past := genuine_history hnew trivial steps
  have hheld : p.store.bounds = .held past := by
    rw [show p.store = .after past from store_run hnew steps]
    exact Store.bounds_after past
  refine ⟨hheld, fun g t x₀ => ?_, fun kept => ?_⟩
  · rw [store_solve]
    cases hc : p.passage? ω g t x₀ with
    | none => rfl
    | some c => exact ⟨bounds_received (p.received_of_passage hc), p.store.bounds_passed c⟩
  · rw [hheld]
    exact Bounds.held_eq_written hgenuine kept

end Problem

/-! ## Routines that keep their bounds and routines that do not -/

namespace Script

/-- A problem in one variable whose routine acts as written. -/
def single (script : List RoutineAction) :
    Problem (small 1 0 0) (EvaluatorScript InnerProblem) (RoutineScript InnerProblem) :=
  .new _ {} { script := [script] }

/-- Bounds are set, and the problem is solved. -/
def boundedSolve :
    List (Gate Thread × Step (EvaluatorScript InnerProblem) (RoutineScript InnerProblem)) :=
  [(.vacant, .setBounds #[-4.0] #[4.0]), (.vacant, .solve (.given #[0.0]) false)]

/-- A routine that overwrites other buffers keeps the bounds. -/
theorem bounds_lent_kept :
    let p := (single [.reals .linear (.fill 7.0), .integers .state .count]).run Note boundedSolve
    p.store.bounds = ⟨.replicate _ (-4.0), .replicate _ 4.0⟩ := by
  obtain ⟨-, -, hkept⟩ := Problem.bounds_lent (ω := Note) _ _ boundedSolve
  refine hkept fun c hc => ?_
  rcases List.mem_cons.mp hc with hcalled | hgave
  · cases hcalled
    rfl
  · cases List.mem_singleton.mp hgave

/-- A routine that overwrites both bounds. -/
def meddling : List RoutineAction := [.reals .lower (.fill 7.0), .reals .upper (.fill 9.0)]

/-- **A solve changes bounds**: they are not what was written, and the next solve is handed what the
routine of the first one left. -/
theorem bounds_overwritten :
    let p := (single meddling).run Note boundedSolve
    let past := (single meddling).history Note [] boundedSolve
    Bounds.written past = ⟨.replicate _ (-4.0), .replicate _ 4.0⟩ ∧
      p.store.bounds = ⟨.replicate _ 7.0, .replicate _ 9.0⟩ ∧
      p.store.bounds ≠ Bounds.written past ∧
      (p.passage? Note .vacant mainThread #[0.0]).map (·.received.bounds) =
        some p.store.bounds := by
  refine ⟨rfl, rfl, ?_, rfl⟩
  intro h
  have hlower : (7.0 : Float) = -4.0 := congrArg (fun b => b.lower.get ⟨0, Nat.one_pos⟩) h
  exact absurd hlower (by decide)

end Script

end NonlinearFit
