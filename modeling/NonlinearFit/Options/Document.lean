import NonlinearFit.Json.Document
import NonlinearFit.Json.Value
import NonlinearFit.Options.Basic

/-!
# Options as data

`Options.toDocument` writes all eleven options, unset ones as `null`. `Options.ofString?` reads
options from JSON: an object by name, where missing and null options are unset and unknown names
are ignored, or an array by position, which may stop early. Reading checks types and ranges but not
admissibility; that is for `Options.check`.
-/

namespace NonlinearFit

namespace Start

def name : Start → String
  | cold => "Cold"
  | warm => "Warm"

def ofName? (s : String) : Option Start :=
  if s = "Cold" then some cold else if s = "Warm" then some warm else none

/-- A start is given by its name, or by an object with that name as its one key and no value. -/
def ofJson? : Json → Option Start
  | .string t => t.decode.bind ofName?
  | .object [(t, .null)] => t.decode.bind ofName?
  | _ => none

end Start

namespace Options

/-- The options' names in data, in their order. -/
def names : List String :=
  ["start", "major_iteration_limit", "minor_iteration_limit", "optimality_tolerance",
    "feasibility_tolerance", "function_precision", "infinite_bound_size", "derivative_level",
    "verify_level", "print_level", "list"]

def toDocument (o : Options) : Document :=
  .record (names.zip [
    .ofOption (.string ·.name) o.start,
    .ofOption (.integer ·.toNat) o.majorLimit,
    .ofOption (.integer ·.toNat) o.minorLimit,
    .ofOption .ofFloat o.optimality,
    .ofOption .ofFloat o.feasibility,
    .ofOption .ofFloat o.precision,
    .ofOption .ofFloat o.infiniteBound,
    .ofOption (.integer ·.toNat) o.derivatives,
    .ofOption (.integer ·.toInt) o.verify,
    .ofOption (.integer ·.toNat) o.printLevel,
    .ofOption .bool o.list])

def wordOfJson? (j : Json) : Option Word :=
  (j.toInt? 0 (UInt64.size - 1)).map fun i => UInt64.ofNat i.toNat

def levelOfJson? (j : Json) : Option UInt8 :=
  (j.toInt? 0 255).map fun i => UInt8.ofNat i.toNat

def signedLevelOfJson? (j : Json) : Option Int8 := (j.toInt? (-128) 127).map Int8.ofInt

/-- Reads each option from its field. -/
def ofFields? (fs : Json.Fields) : Option Options := do
  return {
    start := ← fs.optional? "start" Start.ofJson?
    majorLimit := ← fs.optional? "major_iteration_limit" wordOfJson?
    minorLimit := ← fs.optional? "minor_iteration_limit" wordOfJson?
    optimality := ← fs.optional? "optimality_tolerance" Json.toFloat?
    feasibility := ← fs.optional? "feasibility_tolerance" Json.toFloat?
    precision := ← fs.optional? "function_precision" Json.toFloat?
    infiniteBound := ← fs.optional? "infinite_bound_size" Json.toFloat?
    derivatives := ← fs.optional? "derivative_level" levelOfJson?
    verify := ← fs.optional? "verify_level" signedLevelOfJson?
    printLevel := ← fs.optional? "print_level" wordOfJson?
    list := ← fs.optional? "list" Json.toBool? }

def ofJson? (j : Json) : Option Options := do
  ofFields? (← j.fields? names)

/-- Reads options from a text. -/
def ofString? (s : String) : Option Options := do
  ofJson? (← Json.ofString? s)

end Options

end NonlinearFit
