import NonlinearFit.Decimal.Layout

/-!
# Documents

A `Document` is data to be written as JSON: records with named fields, lists and scalars, numbers
still being numbers. `Document.text` is its JSON form. A float that is not finite has none and
becomes `null`, which `Document.ofFloat` decides.
-/

namespace NonlinearFit

/-- Data to be written. -/
inductive Document where
  | null
  | bool (b : Bool)
  | integer (i : Int)
  | float (x : Float)
  | string (s : String)
  | list (items : List Document)
  | record (fields : List (String × Document))

namespace Document

/-- A float, if JSON can say it. -/
def ofFloat (x : Float) : Document := if x.isFinite then float x else null

def ofOption {α : Type} (f : α → Document) : Option α → Document
  | none => null
  | some v => f v

/-- The two hexadecimal digits of a control character. -/
def hexPair (c : Char) : List Char :=
  let digit (k : Nat) : Char := (Nat.toDigits 16 k).headD '0'
  [digit (c.toNat / 16), digit (c.toNat % 16)]

/-- A character inside a string. -/
def escape (c : Char) : List Char :=
  if c = '"' then ['\\', '"']
  else if c = '\\' then ['\\', '\\']
  else if c = '\n' then ['\\', 'n']
  else if c = '\r' then ['\\', 'r']
  else if c = '\t' then ['\\', 't']
  else if c = '\x08' then ['\\', 'b']
  else if c = '\x0c' then ['\\', 'f']
  else if c < ' ' then ['\\', 'u', '0', '0'] ++ hexPair c
  else [c]

def quoted (s : String) : List Char := '"' :: s.toList.flatMap escape ++ ['"']

mutual

/-- The characters of a document's JSON form. -/
def characters : Document → List Char
  | null => "null".toList
  | bool true => "true".toList
  | bool false => "false".toList
  | integer i => (toString i).toList
  | float x => (Layout.general.write x).toList
  | string s => quoted s
  | list items => '[' :: itemCharacters items ++ [']']
  | record fields => '{' :: fieldCharacters fields ++ ['}']

def itemCharacters : List Document → List Char
  | [] => []
  | [d] => d.characters
  | d :: ds => d.characters ++ ',' :: itemCharacters ds

def fieldCharacters : List (String × Document) → List Char
  | [] => []
  | [(k, d)] => quoted k ++ ':' :: d.characters
  | (k, d) :: fs => quoted k ++ ':' :: d.characters ++ ',' :: fieldCharacters fs

end

/-- The JSON form of a document. -/
def text (d : Document) : String := String.ofList d.characters

end Document

end NonlinearFit
