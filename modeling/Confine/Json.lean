set_option autoImplicit false

/-! # JSON values and their texts

Reports are written as JSON. `Json.pretty` breaks lines and indents by two spaces a level, as
a person reads it; `Json.compact` writes the same value on one line. Object fields keep the
order in which they are given. -/

namespace Confine

/-- A JSON value. A number that is written with a fraction or an exponent is kept apart from the
integers, because a field that counts something never accepts one. -/
inductive Json where
  /-- The value `null`. -/
  | null
  /-- A truth value. -/
  | bool (b : Bool)
  /-- A number without fraction and exponent. -/
  | integer (n : Int)
  /-- Any other number, by its text. -/
  | real (text : String)
  /-- A text. -/
  | string (s : String)
  /-- A sequence of values. -/
  | array (items : List Json)
  /-- Named values, in order. -/
  | object (fields : List (String × Json))
  deriving Inhabited

namespace Json

/-! ## Building values -/

/-- A 64-bit number. -/
def ofUInt64 (n : UInt64) : Json :=
  .integer n.toNat

/-- A 32-bit number. -/
def ofUInt32 (n : UInt32) : Json :=
  .integer n.toNat

/-- A signed 32-bit number. -/
def ofInt32 (n : Int32) : Json :=
  .integer n.toInt

/-- A value that may be absent; absence is `null`. -/
def ofOption {α : Type} (encode : α → Json) (o : Option α) : Json :=
  o.elim .null encode

/-- The field of an object with a name. -/
def field? (name : String) : Json → Option Json
  | .object fields => fields.lookup name
  | _ => none

/-! ## Writing -/

/-- A digit of a four-digit escape, in lower case. -/
def escapeDigit (n : Nat) : Char :=
  (Nat.digitChar (n % 16))

/-- A character as it stands inside a JSON string: quotes, backslashes and the controls below
the space are escaped, by one letter where there is one. -/
def escapeChar (c : Char) : List Char :=
  if c = '"' then ['\\', '"']
  else if c = '\\' then ['\\', '\\']
  else if c = '\n' then ['\\', 'n']
  else if c = '\r' then ['\\', 'r']
  else if c = '\t' then ['\\', 't']
  else if c = '\x08' then ['\\', 'b']
  else if c = '\x0c' then ['\\', 'f']
  else if c.toNat < 0x20 then
    ['\\', 'u', '0', '0', escapeDigit (c.toNat / 16), escapeDigit c.toNat]
  else [c]

/-- A text as a JSON string, with its quotes. -/
def quote (s : String) : String :=
  "\"" ++ String.ofList (s.toList.flatMap escapeChar) ++ "\""

/-- The start of a line at a level of indentation. -/
def margin (level : Nat) : String :=
  "\n" ++ String.ofList (List.replicate (2 * level) ' ')

mutual

/-- The value over several lines, its inner lines indented one level more than `level`. An
empty array or object stays on its line. -/
def prettyAt (level : Nat) : Json → String
  | .null => "null"
  | .bool b => toString b
  | .integer n => toString n
  | .real text => text
  | .string s => quote s
  | .array [] => "[]"
  | .array (item :: items) =>
    "[" ++ margin (level + 1) ++ prettyAt (level + 1) item ++ prettyItems level items ++
      margin level ++ "]"
  | .object [] => "\x7b\x7d"
  | .object ((name, value) :: fields) =>
    "\x7b" ++ margin (level + 1) ++ quote name ++ ": " ++ prettyAt (level + 1) value ++
      prettyFields level fields ++ margin level ++ "\x7d"

/-- The items of an array after the first. -/
def prettyItems (level : Nat) : List Json → String
  | [] => ""
  | item :: items =>
    "," ++ margin (level + 1) ++ prettyAt (level + 1) item ++ prettyItems level items

/-- The fields of an object after the first. -/
def prettyFields (level : Nat) : List (String × Json) → String
  | [] => ""
  | (name, value) :: fields =>
    "," ++ margin (level + 1) ++ quote name ++ ": " ++ prettyAt (level + 1) value ++
      prettyFields level fields

end

/-- The value over several lines. -/
def pretty (j : Json) : String :=
  prettyAt 0 j

mutual

/-- The value on one line, without spaces between its parts. -/
def compact : Json → String
  | .null => "null"
  | .bool b => toString b
  | .integer n => toString n
  | .real text => text
  | .string s => quote s
  | .array items => "[" ++ compactItems true items ++ "]"
  | .object fields => "\x7b" ++ compactFields true fields ++ "\x7d"

/-- Items on one line, with a comma before each that is not `first`. -/
def compactItems (first : Bool) : List Json → String
  | [] => ""
  | item :: items => (if first then "" else ",") ++ compact item ++ compactItems false items

/-- Fields on one line, with a comma before each that is not `first`. -/
def compactFields (first : Bool) : List (String × Json) → String
  | [] => ""
  | (name, value) :: fields =>
    (if first then "" else ",") ++ quote name ++ ":" ++ compact value ++
      compactFields false fields

end

end Json

end Confine
