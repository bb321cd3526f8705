import NonlinearFit.Decimal.Layout
import NonlinearFit.Word

/-!
# Options of the routine

The routine takes its options as lines of text. `Options` holds the common ones with a type each;
an unset option keeps the routine's default.

**Settings.** A `Setting` is one option with its value. `Setting.check` says which values are
admissible, `Options.set` changes one option if the value is, and `Setting.line` is the line
that tells the routine about it.

**Whole options.** `Options.check` finds the first option with an inadmissible value, which
matters for options that were read rather than set. `Options.settings` lists the options that are
set in the order in which the routine hears of them.
-/

namespace NonlinearFit

/-- What the routine does with the state, multipliers and Hessian factor it is given. -/
inductive Start where
  /-- Ignore them. -/
  | cold
  /-- Continue from them. -/
  | warm
deriving DecidableEq, Repr

/-- An option with an inadmissible value. -/
inductive OptionError where
  | notPositive (name : String) (value : Float)
  | derivativeLevel (value : UInt8)
  | verifyLevel (value : Int8)
deriving DecidableEq

/-- The sentence that reports the error. -/
def OptionError.message : OptionError → String
  | notPositive name value =>
    name ++ " must be finite and positive, got " ++ Layout.plain.write value
  | derivativeLevel value =>
    "derivative level must be in 0..=3, got " ++ toString value.toNat
  | verifyLevel value =>
    "verify level must be in -1..=3 or 10..=13, got " ++ toString value.toInt

/-- One option with its value. -/
inductive Setting where
  /-- Whether the routine echoes the options it reads. -/
  | list (echo : Bool)
  | start (start : Start)
  | printLevel (level : Word)
  | majorLimit (limit : Word)
  | minorLimit (limit : Word)
  /-- The accuracy asked of the objective. -/
  | optimality (tolerance : Float)
  /-- The largest admissible constraint violation. -/
  | feasibility (tolerance : Float)
  /-- The relative precision of objective and constraints. -/
  | precision (precision : Float)
  /-- From which magnitude on a bound counts as infinite. -/
  | infiniteBound (size : Float)
  /-- Which derivatives the evaluator gives: 0 none, 1 gradient, 2 Jacobian, 3 both. -/
  | derivatives (level : UInt8)
  /-- How thoroughly the routine checks derivatives. -/
  | verify (level : Int8)
deriving DecidableEq

namespace Setting

/-- Accepts finite positive numbers. -/
def checkPositive (name : String) (value : Float) : Except OptionError Unit :=
  if value.isFinite ∧ 0.0 < value then .ok () else .error (.notPositive name value)

def checkDerivatives (level : UInt8) : Except OptionError Unit :=
  if level ≤ 3 then .ok () else .error (.derivativeLevel level)

def checkVerify (level : Int8) : Except OptionError Unit :=
  if (-1 ≤ level ∧ level ≤ 3) ∨ (10 ≤ level ∧ level ≤ 13) then .ok ()
  else .error (.verifyLevel level)

/-- Whether the value is admissible. -/
def check : Setting → Except OptionError Unit
  | optimality v => checkPositive "optimality tolerance" v
  | feasibility v => checkPositive "feasibility tolerance" v
  | precision v => checkPositive "function precision" v
  | infiniteBound v => checkPositive "infinite bound size" v
  | derivatives v => checkDerivatives v
  | verify v => checkVerify v
  | list _ | start _ | printLevel _ | majorLimit _ | minorLimit _ => .ok ()

/-- The line that sets the option. -/
def line : Setting → String
  | list true => "List"
  | list false => "Nolist"
  | start .cold => "Cold Start"
  | start .warm => "Warm Start"
  | printLevel v => "Major Print Level " ++ toString v.toNat
  | majorLimit v => "Major Iteration Limit " ++ toString v.toNat
  | minorLimit v => "Minor Iteration Limit " ++ toString v.toNat
  | optimality v => "Optimality Tolerance " ++ Layout.scientific.write v
  | feasibility v => "Feasibility Tolerance " ++ Layout.scientific.write v
  | precision v => "Function Precision " ++ Layout.scientific.write v
  | infiniteBound v => "Infinite Bound Size " ++ Layout.scientific.write v
  | derivatives v => "Derivative Level " ++ toString v.toNat
  | verify v => "Verify Level " ++ toString v.toInt

end Setting

/-- The options that a problem sets. -/
structure Options where
  start : Option Start := none
  majorLimit : Option Word := none
  minorLimit : Option Word := none
  optimality : Option Float := none
  feasibility : Option Float := none
  precision : Option Float := none
  infiniteBound : Option Float := none
  derivatives : Option UInt8 := none
  verify : Option Int8 := none
  printLevel : Option Word := none
  list : Option Bool := none
deriving DecidableEq

namespace Options

/-- No option set. -/
def unset : Options := {}

/-- The options with one of them replaced. -/
def put (o : Options) : Setting → Options
  | .list v => { o with list := some v }
  | .start v => { o with start := some v }
  | .printLevel v => { o with printLevel := some v }
  | .majorLimit v => { o with majorLimit := some v }
  | .minorLimit v => { o with minorLimit := some v }
  | .optimality v => { o with optimality := some v }
  | .feasibility v => { o with feasibility := some v }
  | .precision v => { o with precision := some v }
  | .infiniteBound v => { o with infiniteBound := some v }
  | .derivatives v => { o with derivatives := some v }
  | .verify v => { o with verify := some v }

/-- Sets one option to an admissible value. -/
def set (o : Options) (s : Setting) : Except OptionError Options := do
  s.check
  return o.put s

/-- Sets options one after the other, passing over inadmissible ones. The errors stand where the
inadmissible settings stood. -/
def setAll (o : Options) : List Setting → Options × List (Except OptionError Unit)
  | [] => (o, [])
  | s :: rest =>
    match o.set s with
    | .ok o' => let (last, results) := o'.setAll rest; (last, .ok () :: results)
    | .error e => let (last, results) := o.setAll rest; (last, .error e :: results)

/-- Checks a value that may be unset. -/
def checkSome {α : Type} (check : α → Except OptionError Unit) :
    Option α → Except OptionError Unit
  | none => .ok ()
  | some v => check v

/-- Checks every option: tolerances first, then the two levels. -/
def check (o : Options) : Except OptionError Unit := do
  checkSome (Setting.checkPositive "optimality tolerance") o.optimality
  checkSome (Setting.checkPositive "feasibility tolerance") o.feasibility
  checkSome (Setting.checkPositive "function precision") o.precision
  checkSome (Setting.checkPositive "infinite bound size") o.infiniteBound
  checkSome Setting.checkDerivatives o.derivatives
  checkSome Setting.checkVerify o.verify

/-- The options that are set, in the order in which the routine hears of them. -/
def settings (o : Options) : List Setting :=
  (o.list.map .list).toList
    ++ (o.start.map .start).toList
    ++ (o.printLevel.map .printLevel).toList
    ++ (o.majorLimit.map .majorLimit).toList
    ++ (o.minorLimit.map .minorLimit).toList
    ++ (o.optimality.map .optimality).toList
    ++ (o.feasibility.map .feasibility).toList
    ++ (o.precision.map .precision).toList
    ++ (o.infiniteBound.map .infiniteBound).toList
    ++ (o.derivatives.map .derivatives).toList
    ++ (o.verify.map .verify).toList

/-- The lines that set the options. -/
def lines (o : Options) : List String := o.settings.map Setting.line

end Options

end NonlinearFit
