import NonlinearFit.Binary64

/-!
# Shortest digits

Every finite double but zero is written with the fewest decimal digits that read back to it.

**The interval.** The reals that round to a double reach half a unit to both sides of it, a
quarter unit below a power of two; the ends belong to it when the mantissa is even.

**The search.** For one, two, … digits the double has two neighbours on the decimal grid of that
many digits. The first grid with a neighbour in the interval wins; of two such neighbours the nearer
is taken, and the upper one when both are equally near. Seventeen digits are always enough; should a
search end without a hit, all digits of the double are written.
-/

namespace NonlinearFit

/-- A decimal number `digits · 10 ^ exponent`. -/
structure Decimal where
  digits : Nat
  exponent : Int
deriving DecidableEq, Repr

namespace Decimal

/-- How many decimal digits a number has. -/
def digitCount (n : Nat) : Nat := (Nat.toDigits 10 n).length

/-- The power of ten of the leading digit. -/
def leading (d : Decimal) : Int := d.exponent + digitCount d.digits - 1

/-- Drops trailing zeros, at most `fuel` of them. -/
def trimZeros : Nat → Decimal → Decimal
  | 0, d => d
  | fuel + 1, d =>
    if d.digits % 10 = 0 then trimZeros fuel ⟨d.digits / 10, d.exponent + 1⟩ else d

/-! ## The interval of a double -/

/-- The reals that round to a double, in quarters of its last place. -/
structure Interval where
  low : Nat
  mid : Nat
  high : Nat
  /-- The exponent of two of a quarter of the last place. -/
  exponent : Int
  closed : Bool

def Interval.ofParts (p : Binary64.Parts) : Interval where
  low := if p.mantissa = Nat.pow 2 52 ∧ Binary64.minExponent < p.exponent
    then 4 * p.mantissa - 1 else 4 * p.mantissa - 2
  mid := 4 * p.mantissa
  high := 4 * p.mantissa + 2
  exponent := p.exponent - 2
  closed := p.mantissa % 2 = 0

/-- The two integers by which a decimal with exponent `e` and a quarter unit are multiplied to make
them comparable. -/
def Interval.scales (v : Interval) (e : Int) : Nat × Nat :=
  (Nat.pow 10 e.toNat * Nat.pow 2 (-v.exponent).toNat,
    Nat.pow 2 v.exponent.toNat * Nat.pow 10 (-e).toNat)

/-- Whether the decimal `n · 10 ^ e` lies in the interval. -/
def Interval.contains (v : Interval) (n : Nat) (e : Int) : Bool :=
  let (ten, two) := v.scales e
  if v.closed then v.low * two ≤ n * ten && n * ten ≤ v.high * two
  else v.low * two < n * ten && n * ten < v.high * two

/-- The neighbour to write on the grid of multiples of `10 ^ e`, if one lies in the interval. -/
def Interval.onGrid (v : Interval) (e : Int) : Option Decimal :=
  let (ten, two) := v.scales e
  let below := v.mid * two / ten
  let rest := v.mid * two % ten
  match v.contains below e, v.contains (below + 1) e with
  | false, false => none
  | true, false => some ⟨below, e⟩
  | false, true => some ⟨below + 1, e⟩
  | true, true => some ⟨if 2 * rest < ten then below else below + 1, e⟩

/-- The power of ten of the leading digit of `mid`, and perhaps one more. -/
def Interval.leading (v : Interval) : Int :=
  let (ten, two) := v.scales 0
  let n := v.mid * two
  if ten ≤ n then digitCount (n / ten) - 1 else - (digitCount (ten / n) : Int)

/-- All digits of the double itself. -/
def Interval.exact (v : Interval) : Decimal :=
  ⟨v.mid * Nat.pow 2 v.exponent.toNat * Nat.pow 5 (-v.exponent).toNat, min v.exponent 0⟩

/-- The hit on the first of `fuel` grids, from the coarsest one on. -/
def Interval.search (v : Interval) : (fuel : Nat) → (e : Int) → Decimal
  | 0, _ => v.exact
  | fuel + 1, e => (v.onGrid e).getD (v.search fuel (e - 1))

/-- The shortest decimal that reads back to a finite double, without its sign. -/
def shortest (x : Float) : Decimal :=
  let p := Binary64.parts x
  if p.mantissa = 0 then ⟨0, 0⟩
  else
    let v := Interval.ofParts p
    trimZeros 20 (v.search 20 (v.leading + 1))

end Decimal

end NonlinearFit
