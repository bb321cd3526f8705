import NonlinearFit.Word

/-!
# Reading option lines

An option line is a keyword and a value. `OptionLine.integer?` reads the integer that a line gives
to a keyword: case does not matter in the keyword, and blanks and equals signs may stand before the
value. Blanks are the characters with the Unicode property White_Space.
-/

namespace NonlinearFit.OptionLine

/-- Whether a character is white space. -/
def isBlank (c : Char) : Bool :=
  let k := c.toNat
  (0x09 ≤ k && k ≤ 0x0d) || k = 0x20 || k = 0x85 || k = 0xa0 || k = 0x1680
    || (0x2000 ≤ k && k ≤ 0x200a) || k = 0x2028 || k = 0x2029 || k = 0x202f || k = 0x205f
    || k = 0x3000

/-- The characters between the first and the last one that is not blank. -/
def trim (cs : List Char) : List Char :=
  ((cs.dropWhile isBlank).reverse.dropWhile isBlank).reverse

/-- What follows the keyword. -/
def dropKeyword? : (keyword cs : List Char) → Option (List Char)
  | [], cs => some cs
  | k :: ks, c :: cs => if k = c then dropKeyword? ks cs else none
  | _ :: _, [] => none

/-- The number that digits denote, at least one. -/
def digits? (cs : List Char) : Option Nat :=
  if !cs.isEmpty && cs.all Char.isDigit then
    some (cs.foldl (fun n c => 10 * n + (c.toNat - '0'.toNat)) 0)
  else none

/-- An integer with an optional sign, in the routine's range. -/
def readInteger? (cs : List Char) : Option Integer :=
  match cs with
  | '-' :: ds => (digits? ds).bind fun k =>
    if k ≤ Integer.largest + 1 then some (Int64.ofInt (-k)) else none
  | '+' :: ds => (digits? ds).bind positive?
  | ds => (digits? ds).bind positive?
where
  positive? (k : Nat) : Option Integer :=
    if k ≤ Integer.largest then some (Int64.ofInt k) else none

/-- The integer that a line gives to a keyword, written in lower case. -/
def integer? (keyword line : String) : Option Integer := do
  let value ← dropKeyword? keyword.toList (line.toList.map Char.toLower)
  readInteger? (trim ((trim value).dropWhile (· == '=')))

end NonlinearFit.OptionLine
