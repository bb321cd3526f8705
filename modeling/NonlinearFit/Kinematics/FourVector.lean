import NonlinearFit.Binary64
import NonlinearFit.Json.Document
import NonlinearFit.Json.Value
import NonlinearFit.Kinematics.Energy

/-!
# Four-vectors

A `FourVector` is a four-momentum. Its derived quantities are computed in GeV.

**As data.** A four-vector is written as its four components in joules. It is read from an object by
name, all four being required and others ignored, or from an array of exactly four numbers.
-/

namespace NonlinearFit

/-- A momentum and an energy. -/
structure FourVector where
  px : Energy
  py : Energy
  pz : Energy
  e : Energy
deriving DecidableEq

namespace FourVector

/-- The four-vector with the given components in GeV. -/
def ofGeV (px py pz e : Float) : FourVector := ⟨.ofGeV px, .ofGeV py, .ofGeV pz, .ofGeV e⟩

def zero : FourVector := ofGeV 0.0 0.0 0.0 0.0

/-- The momentum across the third axis. -/
def transverse (v : FourVector) : Energy := .ofGeV (Binary64.hypot v.px.inGeV v.py.inGeV)

/-- The size of the momentum. -/
def momentum (v : FourVector) : Energy :=
  .ofGeV (Binary64.hypot (Binary64.hypot v.px.inGeV v.py.inGeV) v.pz.inGeV)

/-- The square of the mass, in GeV². -/
def massSquared (v : FourVector) : Float :=
  let px := v.px.inGeV
  let py := v.py.inGeV
  let pz := v.pz.inGeV
  let e := v.e.inGeV
  e * e - (px * px + py * py + pz * pz)

/-- The invariant mass. It is negative when the momentum exceeds the energy. -/
def mass (v : FourVector) : Energy :=
  let m := v.massSquared
  .ofGeV (if m < 0.0 then -(-m).sqrt else m.sqrt)

/-- Whether two four-vectors are equal as floats compare. -/
def agrees (a b : FourVector) : Bool :=
  a.px.agrees b.px && a.py.agrees b.py && a.pz.agrees b.pz && a.e.agrees b.e

/-! ## As data -/

def names : List String := ["px", "py", "pz", "e"]

def toDocument (v : FourVector) : Document :=
  .record (names.zip [
    .ofFloat v.px.joules, .ofFloat v.py.joules, .ofFloat v.pz.joules, .ofFloat v.e.joules])

def energyOfJson? (j : Json) : Option Energy := j.toFloat?.map Energy.mk

def ofJson? (j : Json) : Option FourVector := do
  let fs ← j.fields? names
  return {
    px := ← fs.required? "px" energyOfJson?
    py := ← fs.required? "py" energyOfJson?
    pz := ← fs.required? "pz" energyOfJson?
    e := ← fs.required? "e" energyOfJson? }

/-- Reads a four-vector from a text. -/
def ofString? (s : String) : Option FourVector := do
  ofJson? (← Json.ofString? s)

end FourVector

end NonlinearFit
