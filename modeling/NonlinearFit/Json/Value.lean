import NonlinearFit.Json.Lexer

/-!
# JSON values

`Json.ofString?` reads the one value a text holds, with white space around it. The parser is a
pushdown automaton over tokens: the containers still open form its stack, and its goal says what
may come next. Numbers stay literals and strings stay as written, since what they have to satisfy
depends on where they are used.
-/

namespace NonlinearFit

/-- A JSON value as read. An object lists its members in order, repeated keys included. -/
inductive Json where
  | null
  | bool (b : Bool)
  | number (n : Json.Numeral)
  | string (t : Json.Text)
  | array (items : List Json)
  | object (members : List (Json.Text × Json))

namespace Json

/-- A container that is still open; its contents stand in reverse. -/
inductive Frame where
  | array (items : List Json)
  | object (members : List (Text × Json))
  /-- An object whose last key has no value yet. -/
  | member (members : List (Text × Json)) (key : Text)

/-- What may come next. -/
inductive Goal where
  | value
  /-- Behind `[`: a value or the end. -/
  | firstItem
  /-- Behind `{`: a key or the end. -/
  | firstKey
  | key
  | colon
  /-- Behind an item or a member: a comma or the end. -/
  | rest
  /-- Behind the outermost value. -/
  | ended (v : Json)

/-- The state of the parser. -/
structure Parsing where
  goal : Goal
  stack : List Frame

namespace Parsing

def start : Parsing := ⟨.value, []⟩

/-- Puts a complete value where one was wanted. -/
def put? (stack : List Frame) (v : Json) : Option Parsing :=
  match stack with
  | [] => some ⟨.ended v, []⟩
  | .array items :: s => some ⟨.rest, .array (v :: items) :: s⟩
  | .member ms key :: s => some ⟨.rest, .object ((key, v) :: ms) :: s⟩
  | .object _ :: _ => none

/-- Closes the innermost container. -/
def close? (stack : List Frame) (t : Token) : Option Parsing :=
  match stack, t with
  | .array items :: s, .closeArray => put? s (.array items.reverse)
  | .object ms :: s, .closeObject => put? s (.object ms.reverse)
  | _, _ => none

/-- A token where a value is wanted. -/
def value? (stack : List Frame) (t : Token) : Option Parsing :=
  match t with
  | .null => put? stack .null
  | .bool b => put? stack (.bool b)
  | .number n => put? stack (.number n)
  | .string t => put? stack (.string t)
  | .openArray => some ⟨.firstItem, .array [] :: stack⟩
  | .openObject => some ⟨.firstKey, .object [] :: stack⟩
  | .closeArray | .closeObject | .comma | .colon => none

/-- A token where a key is wanted. -/
def key? (stack : List Frame) (t : Token) : Option Parsing :=
  match stack, t with
  | .object ms :: s, .string key => some ⟨.colon, .member ms key :: s⟩
  | _, _ => none

def step (p : Parsing) (t : Token) : Option Parsing :=
  match p.goal with
  | .value => value? p.stack t
  | .firstItem => if t = .closeArray then close? p.stack t else value? p.stack t
  | .firstKey => if t = .closeObject then close? p.stack t else key? p.stack t
  | .key => key? p.stack t
  | .colon => if t = .colon then some ⟨.value, p.stack⟩ else none
  | .rest =>
    match t, p.stack with
    | .comma, .array _ :: _ => some ⟨.value, p.stack⟩
    | .comma, .object _ :: _ => some ⟨.key, p.stack⟩
    | _, _ => close? p.stack t
  | .ended _ => none

end Parsing

/-- The value that a list of tokens spells. -/
def ofTokens? (ts : List Token) : Option Json := do
  match (← ts.foldlM Parsing.step Parsing.start).goal with
  | .ended v => some v
  | _ => none

/-- The value that a text holds. -/
def ofString? (s : String) : Option Json := do
  ofTokens? (← Token.ofChars? s.toList)

/-! ## Records -/

/-- Fields of a record as read: each known name with its value, if it was given. -/
abbrev Fields := List (String × Option Json)

/-- The members of an object by the names of a record. Members with other keys are ignored, but
every key has to have a decoded form and no known one may be repeated. -/
def fieldsOfMembers? (names : List String) (members : List (Text × Json)) : Option Fields := do
  let keys ← members.mapM fun m => m.1.decode.map (·, m.2)
  names.mapM fun name =>
    match keys.filter (·.1 == name) with
    | [] => some (name, none)
    | [(_, v)] => some (name, some v)
    | _ => none

/-- The items of an array as the first fields of a record. -/
def fieldsOfItems? (names : List String) (items : List Json) : Option Fields :=
  if items.length ≤ names.length then
    some (names.zip (items.map some ++ List.replicate (names.length - items.length) none))
  else none

/-- The fields of a record, given as an object or as an array. -/
def fields? (names : List String) : Json → Option Fields
  | object members => fieldsOfMembers? names members
  | array items => fieldsOfItems? names items
  | _ => none

/-- The value given for a field. -/
def Fields.get? (fs : Fields) (name : String) : Option Json := (fs.lookup name).join

/-- Reads a field that may be missing or null. -/
def Fields.optional? {α : Type} (fs : Fields) (name : String) (read : Json → Option α) :
    Option (Option α) :=
  match fs.get? name with
  | none | some null => some none
  | some v => (read v).map some

/-- Reads a field that has to be there. -/
def Fields.required? {α : Type} (fs : Fields) (name : String) (read : Json → Option α) :
    Option α := do
  read (← fs.get? name)

/-! ## Scalars -/

def toFloat? : Json → Option Float
  | number n => n.toFloat?
  | _ => none

def toBool? : Json → Option Bool
  | bool b => some b
  | _ => none

/-- Reads an integer between two bounds. -/
def toInt? (low high : Int) : Json → Option Int
  | number n => n.integer?.filter fun i => low ≤ i && i ≤ high
  | _ => none

end Json

end NonlinearFit
