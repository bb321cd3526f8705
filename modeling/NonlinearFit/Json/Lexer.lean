import NonlinearFit.Json.Token

/-!
# Reading tokens

The lexer is an automaton: `Lexing.step` takes one character and gives the tokens completed by it.
Words and numbers extend as far as their characters go and are checked when they end, so
`Token.ofChars?` reads a text in one fold from left to right.
-/

namespace NonlinearFit.Json

/-- What the lexer is in the middle of. Characters read so far stand in reverse. -/
inductive Lexing where
  | between
  | word (letters : List Char)
  | number (chars : List Char)
  | string (pieces : List Piece)
  /-- Behind a backslash. -/
  | escape (pieces : List Piece)
  /-- Inside a `\u` escape, with the digits still missing and the value of those read. -/
  | unit (pieces : List Piece) (missing value : Nat)
deriving DecidableEq, Repr

namespace Lexing

def isBlank (c : Char) : Bool := c = ' ' || c = '\t' || c = '\n' || c = '\r'

def isNumeric (c : Char) : Bool :=
  c.isDigit || c = '-' || c = '+' || c = '.' || c = 'e' || c = 'E'

def hexDigit? (c : Char) : Option Nat :=
  if '0' ≤ c ∧ c ≤ '9' then some (c.toNat - '0'.toNat)
  else if 'a' ≤ c ∧ c ≤ 'f' then some (c.toNat - 'a'.toNat + 10)
  else if 'A' ≤ c ∧ c ≤ 'F' then some (c.toNat - 'A'.toNat + 10)
  else none

/-- The characters that the short escapes stand for. -/
def escaped? : Char → Option Char
  | '"' => some '"'
  | '\\' => some '\\'
  | '/' => some '/'
  | 'b' => some '\x08'
  | 'f' => some '\x0c'
  | 'n' => some '\n'
  | 'r' => some '\r'
  | 't' => some '\t'
  | _ => none

def ofWord? (letters : List Char) : Option Token :=
  if letters = ['n', 'u', 'l', 'l'] then some .null
  else if letters = ['t', 'r', 'u', 'e'] then some (.bool true)
  else if letters = ['f', 'a', 'l', 's', 'e'] then some (.bool false)
  else none

/-- A character between two tokens. -/
def begin? (c : Char) : Option (List Token × Lexing) :=
  if isBlank c then some ([], between)
  else if c = '[' then some ([.openArray], between)
  else if c = ']' then some ([.closeArray], between)
  else if c = '{' then some ([.openObject], between)
  else if c = '}' then some ([.closeObject], between)
  else if c = ',' then some ([.comma], between)
  else if c = ':' then some ([.colon], between)
  else if c = '"' then some ([], string [])
  else if c.isDigit || c = '-' then some ([], number [c])
  else if c.isLower then some ([], word [c])
  else none

/-- The token that ends with the text, if any. -/
def finish? : Lexing → Option (List Token)
  | between => some []
  | word letters => (ofWord? letters.reverse).map ([·])
  | number chars => (Numeral.ofChars? chars.reverse).map fun n => [.number n]
  | string _ | escape _ | unit .. => none

/-- One character: the tokens completed by it and what the lexer is in the middle of then. -/
def step (s : Lexing) (c : Char) : Option (List Token × Lexing) :=
  match s with
  | between => begin? c
  | word letters => if c.isLower then some ([], word (c :: letters)) else endBefore s
  | number chars => if isNumeric c then some ([], number (c :: chars)) else endBefore s
  | string ps =>
    if c = '"' then some ([.string ps.reverse], between)
    else if c = '\\' then some ([], escape ps)
    else if c < ' ' then none
    else some ([], string (.char c :: ps))
  | escape ps =>
    if c = 'u' then some ([], unit ps 4 0)
    else (escaped? c).map fun e => ([], string (.char e :: ps))
  | unit ps missing value =>
    (hexDigit? c).map fun d =>
      let value := 16 * value + d
      ([], if missing ≤ 1 then string (.unit value :: ps) else unit ps (missing - 1) value)
where
  endBefore (s : Lexing) : Option (List Token × Lexing) := do
    let done ← finish? s
    let (more, s) ← begin? c
    return (done ++ more, s)

end Lexing

/-- The tokens read so far and the lexer's state. -/
def Token.readChar (s : Array Token × Lexing) (c : Char) : Option (Array Token × Lexing) := do
  let (done, next) ← s.2.step c
  return (s.1 ++ done, next)

/-- The tokens of a text. -/
def Token.ofChars? (cs : List Char) : Option (List Token) := do
  let (done, s) ← cs.foldlM readChar (#[], .between)
  return done.toList ++ (← s.finish?)

end NonlinearFit.Json
