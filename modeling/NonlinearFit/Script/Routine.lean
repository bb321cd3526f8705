import NonlinearFit.Script.Evaluator

/-!
# Scripted routines

A `RoutineScript` works on its arguments by the actions of its script: it calls back, with its own
buffers or with others, and overwrites buffers. `Recorded` lets any routine note its arguments
before it begins and the option lines it receives.
-/

namespace NonlinearFit.Script

/-! ## Buffers -/

namespace Change

/-- The buffer after a change, with indices as entries by `ofIndex`. -/
def apply {α : Type} [Add α] {k : Nat} (ofIndex : Nat → α) (v : Vector α k) :
    Change α → Vector α k
  | set first ws => v.mapIdx fun i w => if first ≤ i then ws.getD (i - first) w else w
  | add w => v.map (· + w)
  | fill w => .replicate k w
  | count => v.mapIdx fun i _ => ofIndex i

/-- A change of floats. -/
def real {k : Nat} (c : Change Float) (v : Vector Float k) : Vector Float k :=
  c.apply Nat.toFloat v

/-- A change of integers. -/
def integer {k : Nat} (c : Change Integer) (v : Vector Integer k) : Vector Integer k :=
  c.apply Int64.ofNat v

end Change

variable {d : Dimensions}

/-- The arguments after a change of one buffer of floats. -/
def changeReals (a : Arguments d) (c : Change Float) : RealBuffer → Arguments d
  | .linear => { a with linear := c.real a.linear }
  | .lower => { a with lower := c.real a.lower }
  | .upper => { a with upper := c.real a.upper }
  | .values => { a with values := c.real a.values }
  | .jacobian => { a with jacobian := c.real a.jacobian }
  | .multipliers => { a with multipliers := c.real a.multipliers }
  | .gradient => { a with gradient := c.real a.gradient }
  | .hessian => { a with hessian := c.real a.hessian }
  | .point => { a with point := c.real a.point }
  | .realWork => { a with realWork := c.real a.realWork }

/-- The arguments after a change of one buffer of integers. -/
def changeIntegers (a : Arguments d) (c : Change Integer) : IntegerBuffer → Arguments d
  | .state => { a with state := c.integer a.state }
  | .integerWork => { a with integerWork := c.integer a.integerWork }

/-! ## Calling back -/

namespace Passed

/-- A count, zero if none is passed. -/
def count (own : Integer) : Passed Integer → Integer
  | .own => own
  | absent => 0
  | given i => i

/-- A buffer, empty if none is passed. Another one than the own is filled up with zeros. -/
def buffer {α : Type} (own : Unit → Array α) (zero : α) (length : Nat) : Passed (Array α) → Array α
  | .own => own ()
  | absent => #[]
  | given v => v ++ Array.replicate (length - v.size) zero

/-- The own buffer after a call: what came back, if it was the one passed. -/
def restore {α : Type} {k : Nat} (own : Vector α k) (back : Array α) :
    Passed (Array α) → Vector α k
  | .own => own.mapIdx fun i v => back.getD i v
  | absent | given _ => own

/-- What came back, if a buffer was passed. -/
def returned {α : Type} (back : Array α) : Passed (Array α) → Option (Array α)
  | absent => none
  | .own | given _ => some back

end Passed

/-- The call that an order makes. -/
def ObjectiveOrder.call (o : ObjectiveOrder) (t : Thread) (c : Counts) (a : Arguments d) :
    ObjectiveCall :=
  let n := o.unknowns.count c.unknowns
  { thread := threadFor t o.elsewhere
    mode := o.mode
    unknowns := n
    nstate := o.nstate
    point := o.point.buffer (fun _ => a.point.toArray) 0.0 n.toCount
    value := a.objective
    gradient := o.gradient.buffer (fun _ => a.gradient.toArray) 0.0 n.toCount }

/-- Calls the objective callback and notes how it returned. -/
def ObjectiveOrder.run (o : ObjectiveOrder) (t : Thread) (c : Counts) (a : Arguments d) :
    Calling Note (Arguments d) :=
  .ask (.objective (o.call t c a)) fun (r : ObjectiveReturn (o.call t c a)) =>
    .ask (.inquiry (.note (.objectiveReturned r.status r.mode r.value
      (o.gradient.returned r.gradient.toArray)))) fun (_ : Unit) =>
      .done { a with
        objective := r.value
        gradient := o.gradient.restore a.gradient r.gradient.toArray }

/-- The call that an order makes. -/
def ConstraintOrder.call (o : ConstraintOrder) (t : Thread) (c : Counts) (a : Arguments d) :
    ConstraintCall :=
  let m := o.nonlinear.count c.nonlinear
  let n := o.unknowns.count c.unknowns
  let stride := o.stride.count c.jacobianRows
  { thread := threadFor t o.elsewhere
    mode := o.mode
    nonlinear := m
    unknowns := n
    stride := stride
    nstate := o.nstate
    needed := o.needed.buffer (fun _ => Array.replicate m.toCount 1) 0 m.toCount
    point := o.point.buffer (fun _ => a.point.toArray) 0.0 n.toCount
    values := o.values.buffer (fun _ => a.values.toArray) 0.0 m.toCount
    jacobian := o.jacobian.buffer (fun _ => a.jacobian.toArray) 0.0 (stride.toCount * n.toCount) }

/-- Calls the constraint callback and notes how it returned. -/
def ConstraintOrder.run (o : ConstraintOrder) (t : Thread) (c : Counts) (a : Arguments d) :
    Calling Note (Arguments d) :=
  .ask (.constraints (o.call t c a)) fun (r : ConstraintReturn (o.call t c a)) =>
    .ask (.inquiry (.note (.constraintsReturned r.status r.mode
      (o.values.returned r.values.toArray) (o.jacobian.returned r.jacobian.toArray))))
      fun (_ : Unit) =>
        .done { a with
          values := o.values.restore a.values r.values.toArray
          jacobian := o.jacobian.restore a.jacobian r.jacobian.toArray }

/-! ## Running a script -/

section

variable (inner : Option InnerProblem) (t : Thread) (c : Counts)

/-- Runs an action on the arguments. -/
def RoutineAction.run (a : Arguments d) :
    RoutineAction → Calling Note (Arguments d × Except String Unit)
  | objective o => (o.run t c a).map (·, .ok ())
  | constraints o => (o.run t c a).map (·, .ok ())
  | status v => .done ({ a with status := v }, .ok ())
  | iterations v => .done ({ a with iterations := v }, .ok ())
  | value v => .done ({ a with objective := v }, .ok ())
  | reals b change => .done (changeReals a change b, .ok ())
  | integers b change => .done (changeIntegers a change b, .ok ())
  | panic text => .raise text a
  | nested x₀ elsewhere =>
    match inner with
    | none => .done (a, .ok ())
    | some p =>
      .ask (.inquiry (.attempt (threadFor t elsewhere) p.dims x₀)) fun (e : Refusal) =>
        .ask (.inquiry (.note (.nested e p))) fun (_ : Unit) => .done (a, .ok ())
  | progress =>
    .ask (.inquiry .busy) fun (b : Bool) =>
      .ask (.inquiry (.note (.inProgress b))) fun (_ : Unit) => .done (a, .ok ())

/-- Runs actions one after another. -/
def runRoutine : List RoutineAction → Arguments d → Calling Note (Arguments d × Except String Unit)
  | [], a => .done (a, .ok ())
  | action :: rest, a => (action.run inner t c a).andThen fun a _ => runRoutine rest a

end

namespace RoutineScript

variable (s : RoutineScript InnerProblem)

/-- The script replaced, and solves counted from the beginning. -/
def restart (script : List (List RoutineAction)) : RoutineScript InnerProblem :=
  { s with script, calls := 0 }

instance : Routine Note (RoutineScript InnerProblem) where
  configure s line := ({ s with options := s.options ++ [line] }, [])
  solve s t c a :=
    (runRoutine s.inner t c (pick s.script s.calls) a).map fun (a, ending) =>
      .ofEnding { s with calls := s.calls + 1 } a ending

end RoutineScript

namespace AnyRoutine

/-- The script replaced; a descent has none. -/
def restart (script : List (List RoutineAction)) :
    AnyRoutine InnerProblem → AnyRoutine InnerProblem
  | .script r => .script (r.restart script)
  | .descent r => .descent r

instance : Routine Note (AnyRoutine InnerProblem) where
  configure
    | .script r, line => (Routine.configure r line).map .script id
    | .descent r, line => (Routine.configure r line).map .descent id
  solve r t c a :=
    match r with
    | .script r => (Routine.solve r t c a).map (Departure.map .script)
    | .descent r => (Routine.solve r t c a).map (Departure.map .descent)

end AnyRoutine

instance {ρ : Type} [Routine Note ρ] : Routine Note (Recorded ρ) where
  configure r line :=
    let (routine, notes) := Routine.configure r.routine line
    (⟨routine⟩, .option line :: notes)
  solve r t c a :=
    .ask (.inquiry (.note (.called c a))) fun (_ : Unit) =>
      (Routine.solve r.routine t c a).map (Departure.map Recorded.mk)

/-! ## Problems -/

theorem realWork_le_of_small {n l c : Nat} (hn : n ≤ 8) (hl : l ≤ 8) (hc : c ≤ 8) :
    realWork n l c ≤ Integer.largest := by
  have hnn : n * n ≤ 8 * 8 := Nat.mul_le_mul hn hn
  have hnl : n * l ≤ 8 * 8 := Nat.mul_le_mul hn hl
  have hnc : 2 * n * c ≤ 2 * 8 * 8 := Nat.mul_le_mul (Nat.mul_le_mul_left 2 hn) hc
  unfold realWork Integer.largest
  by_cases hzero : c = 0
  · rw [if_pos hzero]
    split <;> omega
  · rw [if_neg hzero]
    omega

/-- The dimensions of a small problem, with at least one variable. No count exceeds eight. -/
def small (n l c : Nat) : Dimensions where
  unknowns := max 1 (min n 8)
  linear := min l 8
  nonlinear := min c 8
  unknowns_pos := Nat.lt_of_lt_of_le Nat.one_pos (Nat.le_max_left ..)
  bounds_le := by unfold boundCount Integer.largest; omega
  integerWork_le := by unfold integerWork Integer.largest; omega
  realWork_le := realWork_le_of_small (by omega) (Nat.min_le_right ..) (Nat.min_le_right ..)

/-- A problem whose evaluator and routine are scripts. -/
abbrev ScriptedProblem := AnyProblem ScriptEvaluator ScriptRoutine

/-- A problem as one inside a script. -/
def InnerProblem.ofProblem (p : ScriptedProblem) : InnerProblem :=
  .mk p.dims p.problem.store p.problem.evaluator p.problem.routine

/-- A problem inside a script as one of its own. -/
def InnerProblem.problem : InnerProblem → ScriptedProblem
  | mk d store evaluator routine => ⟨d, evaluator, routine, store⟩

end NonlinearFit.Script
