import NonlinearFit.Decimal.Digits

/-!
# Layouts of decimal numbers

A `Layout` decides how the shortest digits of a double are set: positionally or with an exponent,
and whether a whole number keeps `.0`. Three layouts are in use.

- `Layout.plain` writes sentences: always positional, `1e21` is `1000000000000000000000`.
- `Layout.scientific` writes option lines: one digit before the point and an exponent, `1.5e10`.
- `Layout.general` writes data: positional between `1e-4` and `1e16`, and a whole number keeps
  `.0`.
-/

namespace NonlinearFit

/-- How decimal digits are set. -/
structure Layout where
  /-- Whether a number whose leading digit has this power of ten is written positionally. -/
  positional : Int → Bool
  /-- Whether a whole number written positionally ends in `.0`. -/
  pointZero : Bool

namespace Layout

def plain : Layout := ⟨fun _ => true, false⟩

def scientific : Layout := ⟨fun _ => false, false⟩

def general : Layout := ⟨fun p => decide (-4 ≤ p ∧ p < 16), true⟩

/-- Digits around a point that stands behind the place of `10 ^ 0`. -/
def setPositional (pointZero : Bool) (d : Decimal) : List Char :=
  let ds := Nat.toDigits 10 d.digits
  if 0 ≤ d.exponent then
    ds ++ List.replicate d.exponent.toNat '0' ++ (if pointZero then ['.', '0'] else [])
  else
    let places := (-d.exponent).toNat
    let padded := List.replicate (places + 1 - ds.length) '0' ++ ds
    padded.take (padded.length - places) ++ '.' :: padded.drop (padded.length - places)

/-- One digit, the others behind a point, and the exponent. -/
def setScientific (d : Decimal) : List Char :=
  let fraction := match (Nat.toDigits 10 d.digits).drop 1 with
    | [] => []
    | ds => '.' :: ds
  (Nat.toDigits 10 d.digits).take 1 ++ fraction ++ 'e' :: (toString d.leading).toList

/-- The text of a decimal number. -/
def set (l : Layout) (d : Decimal) : List Char :=
  if d.digits = 0 then
    if l.positional 0 then setPositional l.pointZero ⟨0, 0⟩ else setScientific ⟨0, 0⟩
  else if l.positional d.leading then setPositional l.pointZero d
  else setScientific d

/-- The text of a double. -/
def write (l : Layout) (x : Float) : String :=
  if x.isNaN then "NaN"
  else
    let sign := if Binary64.isNegative x then ['-'] else []
    if x.isInf then String.ofList (sign ++ ['i', 'n', 'f'])
    else String.ofList (sign ++ l.set (Decimal.shortest x))

end Layout

end NonlinearFit
