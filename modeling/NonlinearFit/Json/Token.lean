import NonlinearFit.Binary64

/-!
# Lexemes of JSON

**Strings.** A `Text` is a string as it stands between its quotes: characters, the short escapes
already replaced, and `\u` escapes kept as code units. `Text.decode` joins surrogate pairs; a text
with a lone surrogate has no decoded form, which matters only where the string is used.

**Numbers.** A `Numeral` keeps the parts of a number literal. `Numeral.integer?` is its value when
it has neither fraction nor exponent, and `Numeral.toFloat?` the nearest double, if that is finite.
A minus sign before zero makes a numeral that is a float and not an integer.
-/

namespace NonlinearFit.Json

/-! ## Strings -/

/-- A part of a string: a character, or a code unit written as a `\u` escape. -/
inductive Piece where
  | char (c : Char)
  | unit (value : Nat)
deriving DecidableEq, Repr

/-- A string as written. -/
abbrev Text := List Piece

namespace Text

def isHighSurrogate (u : Nat) : Bool := decide (0xd800 ≤ u ∧ u < 0xdc00)

def isLowSurrogate (u : Nat) : Bool := decide (0xdc00 ≤ u ∧ u < 0xe000)

/-- The characters of a text, with surrogate pairs joined. -/
def characters? : Text → Option (List Char)
  | [] => some []
  | .char c :: rest => (characters? rest).map (c :: ·)
  | .unit u :: .unit v :: rest =>
    if isHighSurrogate u then
      if isLowSurrogate v then
        (characters? rest).map (Char.ofNat (0x10000 + (u - 0xd800) * 0x400 + (v - 0xdc00)) :: ·)
      else none
    else if isLowSurrogate u then none
    else (characters? (.unit v :: rest)).map (Char.ofNat u :: ·)
  | .unit u :: rest =>
    if isHighSurrogate u || isLowSurrogate u then none
    else (characters? rest).map (Char.ofNat u :: ·)

/-- The string a text stands for. -/
def decode (t : Text) : Option String := t.characters?.map String.ofList

/-- The text of a string, without `\u` escapes. -/
def ofString (s : String) : Text := s.toList.map .char

end Text

/-! ## Numbers -/

/-- The parts of a number literal. -/
structure Numeral where
  negative : Bool
  whole : List Char
  fraction : Option (List Char)
  /-- Sign and digits of the exponent. -/
  exponent : Option (Bool × List Char)
deriving DecidableEq, Repr

/-- The number that decimal digits denote. -/
def natOfDigits (ds : List Char) : Nat :=
  ds.foldl (fun n c => 10 * n + (c.toNat - '0'.toNat)) 0

namespace Numeral

/-- Digits, at least one. -/
def digits1? (cs : List Char) : Option (List Char × List Char) :=
  match cs.span Char.isDigit with
  | ([], _) => none
  | parts => some parts

/-- The exponent part, if there is one. -/
def exponent? : List Char → Option (Option (Bool × List Char))
  | [] => some none
  | 'e' :: cs => signed cs
  | 'E' :: cs => signed cs
  | _ => none
where
  signed : List Char → Option (Option (Bool × List Char))
    | '-' :: cs => ending true cs
    | '+' :: cs => ending false cs
    | cs => ending false cs
  ending (negative : Bool) (cs : List Char) : Option (Option (Bool × List Char)) :=
    match digits1? cs with
    | some (ds, []) => some (some (negative, ds))
    | _ => none

/-- Fraction and exponent. -/
def tail? (negative : Bool) (whole : List Char) : List Char → Option Numeral
  | '.' :: cs => do
    let (ds, rest) ← digits1? cs
    return ⟨negative, whole, some ds, ← exponent? rest⟩
  | cs => do return ⟨negative, whole, none, ← exponent? cs⟩

/-- Reads a literal without its sign. A leading zero stands alone. -/
def unsigned? (negative : Bool) (cs : List Char) : Option Numeral := do
  let (ds, rest) ← digits1? cs
  if 1 < ds.length ∧ ds.head? = some '0' then none
  else tail? negative ds rest

/-- Reads a number literal. -/
def ofChars? : List Char → Option Numeral
  | '-' :: cs => unsigned? true cs
  | cs => unsigned? false cs

/-- The integer that the literal denotes, if it is written as one. -/
def integer? (n : Numeral) : Option Int :=
  if n.fraction.isSome || n.exponent.isSome then none
  else
    let k := natOfDigits n.whole
    if n.negative then if k = 0 then none else some (-k) else some k

/-- All digits before the exponent, as one number. -/
def significand (n : Numeral) : Nat := natOfDigits (n.whole ++ n.fraction.getD [])

/-- The power of ten that the significand is multiplied by. -/
def scale (n : Numeral) : Int :=
  let e : Int := match n.exponent with
    | none => 0
    | some (true, ds) => - (natOfDigits ds : Int)
    | some (false, ds) => natOfDigits ds
  e - (n.fraction.getD []).length

/-- The double nearest to the literal's absolute value. Numbers far outside the range of the
doubles are decided by their order of magnitude, from above with `2 ^ 3 < 10` and from below with
`10 ^ 3 < 2 ^ 10`. -/
def magnitude (n : Numeral) : Float :=
  let k := n.significand
  if k = 0 ∨ n.scale + (k.log2 / 3 : Nat) < -400 then 0.0
  else if 400 < n.scale + (k.log2 * 3 / 10 : Nat) then 1.0 / 0.0
  else Binary64.ofRatio (k * Nat.pow 10 n.scale.toNat) (Nat.pow 10 (-n.scale).toNat)

/-- The double nearest to the literal, unless it is infinite. -/
def toFloat? (n : Numeral) : Option Float :=
  let x := n.magnitude
  if x.isInf then none else some (if n.negative then -x else x)

end Numeral

/-! ## Tokens -/

inductive Token where
  | openArray
  | closeArray
  | openObject
  | closeObject
  | comma
  | colon
  | null
  | bool (b : Bool)
  | number (n : Numeral)
  | string (t : Text)
deriving DecidableEq, Repr

end NonlinearFit.Json
