/-!
# Doubles as integers times powers of two

A finite double is `m · 2 ^ e` with `m < 2 ^ 53`, up to its sign. `Binary64.parts` reads `m` and
`e` off the bits and `Binary64.round` goes the other way: it gives the double nearest to a
positive number `m · 2 ^ e`, ties to the even one, where the number may be a little larger than
written (`above`). Everything else here is built from these two: `ofRatio` rounds a quotient of
integers and `hypot` the square root of a sum of two squares, each exactly once.
-/

namespace NonlinearFit.Binary64

/-- A number `mantissa · 2 ^ exponent`. -/
structure Parts where
  mantissa : Nat
  exponent : Int
deriving DecidableEq, Repr

/-- The bits below the sign. -/
def magnitudeBits (x : Float) : Nat := x.toBits.toNat % Nat.pow 2 63

/-- Whether the sign bit is set. -/
def isNegative (x : Float) : Bool := decide (Nat.pow 2 63 ≤ x.toBits.toNat)

/-- The absolute value of a finite double. -/
def parts (x : Float) : Parts :=
  let biased : Nat := magnitudeBits x / Nat.pow 2 52
  let fraction : Nat := magnitudeBits x % Nat.pow 2 52
  if biased = 0 then ⟨fraction, -1074⟩ else ⟨Nat.pow 2 52 + fraction, (biased : Int) - 1075⟩

/-- The smallest exponent of a double's last place. -/
def minExponent : Int := -1074

/-- The double whose last place is `2 ^ e` and whose mantissa is `m`, infinity if there is none. -/
def assemble (m : Nat) (e : Int) : Float :=
  let bits := (e - minExponent).toNat * Nat.pow 2 52 + m
  Float.ofBits (UInt64.ofNat (min bits 0x7ff0000000000000))

/-- The double nearest to `m · 2 ^ e`, or to a number just above it. With `above`, `m` has to have
more bits than a double. -/
def round (m : Nat) (e : Int) (above : Bool) : Float :=
  if m = 0 then 0.0
  else
    let last := max (e + (m.log2 + 1 : Nat) - 53) minExponent
    if last ≤ e then assemble (m * Nat.pow 2 (e - last).toNat) last
    else
      let unit := Nat.pow 2 (last - e).toNat
      let q := m / unit
      let twice := 2 * (m % unit)
      let up := unit < twice ∨ (unit = twice ∧ (above ∨ q % 2 = 1))
      assemble (if up then q + 1 else q) last

/-- The double nearest to `num / den`. -/
def ofRatio (num den : Nat) : Float :=
  if num = 0 then 0.0
  else
    let shift : Int := (den.log2 : Int) - num.log2 + 56
    let n := num * Nat.pow 2 shift.toNat
    let d := den * Nat.pow 2 (-shift).toNat
    round (n / d) (-shift) (n % d != 0)

/-- The largest `r` whose square is at most `n`, bit by bit from `2 ^ k` downwards. -/
def sqrtFrom (n : Nat) : Nat → Nat → Nat
  | 0, r => r
  | k + 1, r =>
    let s := r + Nat.pow 2 k
    sqrtFrom n k (if s * s ≤ n then s else r)

/-- The integer square root. -/
def isqrt (n : Nat) : Nat := sqrtFrom n (n.log2 / 2 + 1) 0

/-- The double nearest to `√(x² + y²)`. It is infinite as soon as one argument is. -/
def hypot (x y : Float) : Float :=
  if x.isInf || y.isInf then 1.0 / 0.0
  else if x.isNaN || y.isNaN then 0.0 / 0.0
  else
    let a := parts x
    let b := parts y
    let e := min a.exponent b.exponent
    let m := a.mantissa * Nat.pow 2 (a.exponent - e).toNat
    let n := b.mantissa * Nat.pow 2 (b.exponent - e).toNat
    let scaled := (m * m + n * n) * Nat.pow 2 120
    let r := isqrt scaled
    round r (e - 60) (r * r != scaled)

end NonlinearFit.Binary64
