import Confine.Json
import Confine.Log.Filter
import Confine.Log.Format

set_option autoImplicit false

/-! # Log lines

How an event is shown: on a line of text or as a JSON object. A line tells the severity, the
path of the topic and the wording of the event, and no time, since nothing in this library
depends on the time of day. On a line of text the control characters that a terminal acts upon
are shown by their numbers. -/

namespace Confine.Log

/-- Whether a terminal acts upon a control character of ASCII in the middle of a line. -/
def isTerminalControl (c : Char) : Bool :=
  c == '\x07' || c == '\x08' || c == '\x0c' || c == '\x1b' || c == '\x7f'

/-- A character on a line of text. -/
def escapeChar (c : Char) : String :=
  let digits := Text.hexDigits c.toNat
  if isTerminalControl c then "\\x" ++ (if c.toNat < 16 then "0" ++ digits else digits)
  else if 0x80 ≤ c.toNat ∧ c.toNat ≤ 0x9f then Text.codePointEscape c
  else c.toString

/-- A wording on a line of text. -/
def escape (text : String) : String :=
  String.join (text.toList.map escapeChar)

/-- An event on a line of text. -/
def lineOfText (e : Event) : String :=
  s!"{e.severity.name} {e.topic.path}: " ++ escape e.text

/-- An event as an object. -/
def objectOf (e : Event) : Json :=
  .object [
    ("level", .string e.severity.name),
    ("fields", .object [("message", .string e.text)]),
    ("target", .string e.topic.path) ]

/-- An event in a form of lines, without the end of the line. -/
def Format.line (f : Format) (e : Event) : String :=
  match f with
  | .text => lineOfText e
  | .json => (objectOf e).compact

end Confine.Log
