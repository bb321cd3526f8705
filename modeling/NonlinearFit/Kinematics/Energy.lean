/-!
# Energies

An energy is stored in joules. Values in electronvolts are multiplied by the unit's size on the way
in and by its rounded reciprocal on the way out.
-/

namespace NonlinearFit

/-- Units in which energies are given. -/
inductive EnergyUnit where
  | joule
  | megaelectronvolt
  | gigaelectronvolt
deriving DecidableEq, Repr

/-- The size of a unit in joules. -/
def EnergyUnit.size : EnergyUnit → Float
  | joule => 1.0
  | megaelectronvolt => 1.602176634e-13
  | gigaelectronvolt => 1.602176634e-10

/-- An amount of energy. -/
structure Energy where
  joules : Float
deriving DecidableEq

namespace Energy

/-- The energy of `v` units. -/
def ofUnit (u : EnergyUnit) (v : Float) : Energy :=
  match u with
  | .joule => ⟨v⟩
  | u => ⟨v * u.size⟩

/-- The number of units in an energy. -/
def inUnit (u : EnergyUnit) (e : Energy) : Float :=
  match u with
  | .joule => e.joules
  | u => e.joules * (1.0 / u.size)

def ofGeV : Float → Energy := ofUnit .gigaelectronvolt

def inGeV : Energy → Float := inUnit .gigaelectronvolt

/-- Whether two energies are equal as floats compare. -/
def agrees (a b : Energy) : Bool := a.joules.beq b.joules

end Energy

end NonlinearFit
