set_option autoImplicit false

/-! # Writing TOML texts

A text is written in the plainest form that can hold it: between double quotes, between single
quotes, or between three of either over several lines, and with escapes only where no form does
without them. Which form that is depends on four things about the text: whether it has controls
or backslashes, how long its runs of quotes are, and whether it spans lines. -/

namespace Confine.Toml

/-- The longest run of a character in a text, when a run of `current` came just before. -/
def longestRun (c : Char) : Nat → List Char → Nat
  | current, [] => current
  | current, d :: rest =>
    if d = c then longestRun c (current + 1) rest
    else max current (longestRun c 0 rest)

/-- Whether a character is a control that only an escape can write. -/
def isHardControl (c : Char) : Bool :=
  (c.toNat < 0x20 && c ≠ '\t' && c ≠ '\n') || c.toNat = 0x7f

/-- The forms of a text. -/
inductive Form where
  /-- Between double quotes. -/
  | basic
  /-- Between single quotes. -/
  | literal
  /-- Between three double quotes. -/
  | wideBasic
  /-- Between three single quotes. -/
  | wideLiteral
  deriving DecidableEq, Repr

/-- The plainest form that can hold a text. -/
def Form.choose (cs : List Char) : Form :=
  let hard := cs.any isHardControl
  let backslash := cs.any (· == '\\')
  let lines := cs.any (· == '\n')
  let double := longestRun '"' 0 cs
  let single := longestRun '\x27' 0 cs
  if !hard && !backslash && double == 0 && !lines then .basic
  else if !hard && single == 0 && !lines then .literal
  else if !hard && !backslash && double ≤ 2 then .wideBasic
  else if !hard && single ≤ 2 then .wideLiteral
  else if lines then .wideBasic
  else .basic

/-- A digit of a numeric escape, in upper case. -/
def upperDigit (n : Nat) : Char :=
  (Nat.digitChar (n % 16)).toUpper

/-- A control character as an escape. -/
def escapeControl (c : Char) : List Char :=
  if c = '\x08' then ['\\', 'b']
  else if c = '\t' then ['\\', 't']
  else if c = '\n' then ['\\', 'n']
  else if c = '\x0c' then ['\\', 'f']
  else if c = '\r' then ['\\', 'r']
  else
    ['\\', 'u', '0', '0', upperDigit (c.toNat / 16), upperDigit c.toNat]

/-- The inside of a basic text. Over several lines newlines stand as they are, and of the
quotes in a run only every third is escaped; `run` counts the quotes since the last escape. -/
def escapeBasic (wide : Bool) : Nat → List Char → List Char
  | _, [] => []
  | run, c :: rest =>
    if c = '"' then
      if wide ∧ run < 2 then c :: escapeBasic wide (run + 1) rest
      else '\\' :: c :: escapeBasic wide 0 rest
    else if c = '\\' then '\\' :: '\\' :: escapeBasic wide 0 rest
    else if wide ∧ c = '\n' then c :: escapeBasic wide 0 rest
    else if c.toNat < 0x20 ∨ c.toNat = 0x7f then escapeControl c ++ escapeBasic wide 0 rest
    else c :: escapeBasic wide 0 rest

/-- A text with its quotes. Over several lines it starts on a line of its own. -/
def writeText (cs : List Char) : List Char :=
  let start := if cs.any (· == '\n') then ['\n'] else []
  match Form.choose cs with
  | .basic => ['"'] ++ escapeBasic false 0 cs ++ ['"']
  | .literal => ['\x27'] ++ cs ++ ['\x27']
  | .wideBasic => ['"', '"', '"'] ++ start ++ escapeBasic true 0 cs ++ ['"', '"', '"']
  | .wideLiteral => "\x27\x27\x27".toList ++ start ++ cs ++ "\x27\x27\x27".toList

/-- A line that gives a value to a name. -/
def writeEntry (name value : String) : String :=
  name ++ " = " ++ value ++ "\n"

end Confine.Toml
