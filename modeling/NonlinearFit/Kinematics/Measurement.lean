import NonlinearFit.Kinematics.FourVector
import NonlinearFit.Word

/-!
# Measured four-vectors

A `Measurement` is a four-vector with its uncertainties and the quality of the fit that produced it,
if any did.

**As data.** The five fields are written by name. They are read from an object by name, where only
the fit's status may be missing or null, or from an array of exactly five values, where only it may
be null.
-/

namespace NonlinearFit

/-- A four-vector with uncertainties and the result of a fit. -/
structure Measurement where
  vector : FourVector
  /-- The resolution of the energy. -/
  sigmaEnergy : Energy
  /-- The resolution of each component of the direction. -/
  sigmaBeta : Vector Float 3
  /-- The fit's χ² per degree of freedom. -/
  chi2 : Float
  /-- The fit's status, if there was a fit. -/
  status : Option Integer
deriving DecidableEq

namespace Measurement

/-- The χ² that stands for "not fitted". -/
def noFitChi2 : Float := 1.0e20

/-- A measurement without a fit. -/
def new (vector : FourVector) (sigmaEnergy : Energy) (sigmaBeta : Vector Float 3) : Measurement :=
  ⟨vector, sigmaEnergy, sigmaBeta, noFitChi2, none⟩

/-- A measurement without a fit, with the energy's resolution in GeV. -/
def ofGeV (vector : FourVector) (sigmaEnergy : Float) (sigmaBeta : Vector Float 3) : Measurement :=
  new vector (.ofGeV sigmaEnergy) sigmaBeta

def zero : Measurement := ofGeV .zero 0.0 (.replicate 3 0.0)

/-- The measurement with the result of a fit. -/
def fitted (m : Measurement) (chi2 : Float) (status : Integer) : Measurement :=
  { m with chi2, status := some status }

def hasFit (m : Measurement) : Bool := m.status.isSome

/-- Whether two measurements are equal as floats compare. -/
def agrees (a b : Measurement) : Bool :=
  a.vector.agrees b.vector && a.sigmaEnergy.agrees b.sigmaEnergy
    && (List.finRange 3).all (fun i => a.sigmaBeta[i].beq b.sigmaBeta[i])
    && a.chi2.beq b.chi2 && a.status == b.status

/-! ## As data -/

def names : List String := ["vector", "sigma_energy", "sigma_beta", "chi2_per_ndf", "inform"]

def toDocument (m : Measurement) : Document :=
  .record (names.zip [
    m.vector.toDocument,
    .ofFloat m.sigmaEnergy.joules,
    .list (m.sigmaBeta.toList.map .ofFloat),
    .ofFloat m.chi2,
    .ofOption (.integer ·.toInt) m.status])

/-- Reads three numbers. -/
def betaOfJson? : Json → Option (Vector Float 3)
  | .array [a, b, c] => do return #v[← a.toFloat?, ← b.toFloat?, ← c.toFloat?]
  | _ => none

def integerOfJson? (j : Json) : Option Integer :=
  (j.toInt? Int64.minValue.toInt Int64.maxValue.toInt).map Int64.ofInt

def ofFields? (fs : Json.Fields) : Option Measurement := do
  return {
    vector := ← fs.required? "vector" FourVector.ofJson?
    sigmaEnergy := ← fs.required? "sigma_energy" FourVector.energyOfJson?
    sigmaBeta := ← fs.required? "sigma_beta" betaOfJson?
    chi2 := ← fs.required? "chi2_per_ndf" Json.toFloat?
    status := ← fs.optional? "inform" integerOfJson? }

/-- An array has to be complete, while an object may leave the last field out. -/
def ofJson? (j : Json) : Option Measurement :=
  match j with
  | .array items => if items.length = names.length then j.fields? names >>= ofFields? else none
  | _ => j.fields? names >>= ofFields?

/-- Reads a measurement from a text. -/
def ofString? (s : String) : Option Measurement := do
  ofJson? (← Json.ofString? s)

end Measurement

end NonlinearFit
