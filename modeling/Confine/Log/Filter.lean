import Confine.Journal
import Confine.Log.Pattern
import Confine.Text.Blank
import Confine.Text.Decimal
import Confine.Text.Letter

set_option autoImplicit false

/-! # Filters on the journal

A `Filter` decides which events are shown. It is a list of directives, each of which sets a
threshold for all topics or for those whose paths start with its target. Of the directives that
concern a topic the one with the longest target decides, of those with the same target the one that
asks for the most fields, and of those the last; a topic that none concerns is silent. The filter
without directives lets only errors through.

Filters are written as directives with commas between them: a threshold, or a target, or a
target and a threshold with an equals sign between them. A target may be followed by a
condition in brackets: the name of the span in which an event happens, and in braces a field that
it has. Events of this library happen in no span, and their only field is their wording; values of
fields could only be those of a span. -/

namespace Confine.Log

/-- The least urgent severity that is shown, or `none` if nothing is. -/
abbrev Threshold := Option Severity

/-- Whether an event of a severity passes a threshold. -/
def Threshold.admits (t : Threshold) (s : Severity) : Bool :=
  match t with
  | none => false
  | some least => s.rank ≤ least.rank

/-- The threshold with a number: zero shows nothing, and each further number one severity
more. -/
def Threshold.ofNumber? (n : Nat) : Option Threshold :=
  if n = 0 then some none
  else (Severity.all.find? fun s => s.rank == n).map some

/-- The threshold with a name in any mixture of ASCII cases. -/
def Threshold.ofName? (cs : List Char) : Option Threshold :=
  let name := String.ofList (cs.map Char.toUpper)
  if name = "OFF" then some none
  else (Severity.all.find? fun s => s.name == name).map some

/-- The threshold that a text writes. -/
def Threshold.parse? (cs : List Char) : Option Threshold :=
  match Text.Decimal.read (UInt64.size - 1) cs with
  | .ok n => ofNumber? n
  | .error _ => ofName? cs

/-- A rule of a filter. -/
structure Directive where
  /-- What the path of a topic has to start with; `none` for all topics. -/
  target : Option (List Char) := none
  /-- Whether the rule is about events in a span. -/
  inSpan : Bool := false
  /-- The fields that an event has to have. -/
  fields : List (List Char) := []
  /-- The threshold that the rule sets. -/
  threshold : Threshold
  deriving DecidableEq, Repr

namespace Directive

/-! ## Reading one directive -/

/-- Why a text is no directive. -/
inductive Refusal where
  /-- It does not have the form of one. -/
  | form
  /-- What stands after the equals sign is no threshold. -/
  | level
  /-- What is asked of a field is no value. -/
  | value (fault : PatternFault)
  deriving DecidableEq, Repr

/-- The wording of a refusal. -/
def Refusal.message : Refusal → String
  | .form => "invalid filter directive"
  | .level =>
    "error parsing level filter: expected one of \"off\", \"error\", \"warn\", \"info\", " ++
      "\"debug\", \"trace\", or a number 0-5"
  | .value fault => "invalid field filter: " ++ fault.message

/-- Whether a directive can start with a character. -/
def canStart (c : Char) : Bool :=
  Text.isLetter c || c == '-' || c == ':' || c == '_' || c == '['

/-- The directive of a text without an equals sign and without brackets: a threshold, or else a
target of which everything is shown. -/
def ofWord (cs : List Char) : Directive :=
  match Threshold.parse? cs with
  | some threshold => { threshold }
  | none => { target := some cs, threshold := some .trace }

/-- The threshold after an equals sign, where no text stands for everything. -/
def readThreshold (cs : List Char) : Except Refusal Threshold :=
  if cs.isEmpty then .ok (some .trace)
  else
    match Threshold.parse? cs with
    | some threshold => .ok threshold
    | none => .error .level

/-- A condition on events. -/
structure Condition where
  /-- Whether it is about the span of an event, by its name or by a value in it. -/
  inSpan : Bool
  /-- The fields that an event has to have. -/
  fields : List (List Char) := []

/-- Read a field: its name, and whether a value is asked of it. -/
def readField (cs : List Char) : Except Refusal (List Char × Bool) :=
  let name := cs.takeWhile (· ≠ '=')
  match cs.drop name.length with
  | [] => if name.isEmpty then .error .form else .ok (name, false)
  | _ :: value =>
    match valueFault? (value.takeWhile (· ≠ '=')) with
    | none => .ok (name, true)
    | some fault => .error (.value fault)

/-- A text, and what is left of it without the blanks around it. Parts of the second are found by
what follows them, and stand for as many bytes of the first, counted off from its start. -/
structure Spaced where
  /-- The text. -/
  text : List Char
  /-- The text without the blanks. -/
  shape : List Char

namespace Spaced

/-- What starts with a part that goes on to the end. -/
def onward (s : Spaced) (part : List Char) : List Char :=
  Text.dropBytes (Text.countBytes s.shape - Text.countBytes part) s.text

/-- What stands between the starts of two parts that go on to the end. -/
def between (s : Spaced) (first second : List Char) : List Char :=
  Text.takeBytes (Text.countBytes first - Text.countBytes second) (s.onward first)

end Spaced

/-- Read a condition after its opening bracket, and give what follows it. -/
def readCondition (s : Spaced) (cs : List Char) : Except Refusal (Condition × List Char) :=
  let name := cs.takeWhile fun c => c ≠ ']' ∧ c ≠ '\x7b'
  match cs.drop name.length with
  | ']' :: rest => .ok ({ inSpan := true }, rest)
  | '\x7b' :: rest =>
    match rest.dropWhile (· ≠ '\x7d') with
    | [] => .error .form
    | close :: after => do
      let (field, hasValue) ← readField (s.between rest (close :: after))
      match after with
      | ']' :: after =>
        .ok ({ inSpan := hasValue || !name.isEmpty, fields := [field] }, after)
      | _ => .error .form
  | _ => .error .form

/-- The directive that a text writes. Its parts are found as if there were no blanks around the
text, and are then counted off from the start of the text as it stands. -/
def parse (text : List Char) : Except Refusal Directive :=
  let shape := Text.trim text
  let s : Spaced := { text, shape }
  let plain (c : Char) : Bool := c ≠ '=' && c ≠ '['
  let target := s.between shape (shape.dropWhile plain)
  if !(shape.head?.any canStart) then .error .form
  else
    match shape.dropWhile plain with
    | [] => .ok (ofWord text)
    | '[' :: rest => do
      let (condition, after) ← readCondition s rest
      let threshold ← match after with
        | [] => .ok (some .trace)
        | '=' :: level => readThreshold (s.onward level)
        | _ => .error .form
      .ok {
        target := if target.isEmpty then none else some target
        inSpan := condition.inSpan, fields := condition.fields, threshold }
    | _ :: level => do .ok { target := some target, threshold := ← readThreshold (s.onward level) }

/-! ## Which directive decides -/

/-- The only field of an event. -/
def eventField : List Char := "message".toList

/-- Whether a directive concerns the events of a topic with a path. -/
def concerns (d : Directive) (path : List Char) : Bool :=
  !d.inSpan && d.fields.all (· == eventField) && d.target.all fun target => target.isPrefixOf path

/-- How much of a path a directive names. -/
def weight (d : Directive) : Nat :=
  d.target.elim 0 fun target => target.length + 1

/-- Whether a directive comes before another one where both concern the same events. -/
def yieldsTo (d e : Directive) : Bool :=
  d.weight < e.weight || (d.weight == e.weight && d.fields.length ≤ e.fields.length)

end Directive

/-- A list of directives, in the order in which they are written. -/
structure Filter where
  /-- The directives. -/
  directives : List Directive
  deriving DecidableEq, Repr

namespace Filter

/-- The better of two choices: the one that is there, the one that says more, or the later one. -/
def better (path : List Char) (best : Option Directive) (d : Directive) : Option Directive :=
  if d.concerns path && best.all (fun b => b.yieldsTo d) then some d else best

/-- The directive that decides on the topic with a path. -/
def deciding? (f : Filter) (path : List Char) : Option Directive :=
  f.directives.foldl (better path) none

/-- The threshold for a topic. -/
def threshold (f : Filter) (topic : Topic) : Threshold :=
  if f.directives.isEmpty then some .error
  else (f.deciding? topic.path.toList) >>= Directive.threshold

/-- Whether an event is shown. -/
def admits (f : Filter) (e : Event) : Bool :=
  (f.threshold e.topic).admits e.severity

/-! ## Reading filters -/

/-- The texts between the commas, without the empty ones. -/
def pieces (text : String) : List (List Char) :=
  (Text.splitWhere (· == ',') text.toList).filter fun piece => !piece.isEmpty

/-- The filter that a text writes, if all its directives can be read. -/
def parse? (text : String) : Option Filter :=
  (((pieces text).mapM Directive.parse).toOption).map Filter.mk

/-- The filter of those directives of a text that can be read, and the other ones with the reason
why they cannot. -/
def parseLeniently (text : String) : Filter × List (String × Directive.Refusal) :=
  let read := (pieces text).filterMap fun piece => (Directive.parse piece).toOption
  let refused := (pieces text).filterMap fun piece =>
    match Directive.parse piece with
    | .ok _ => none
    | .error refusal => some (String.ofList piece, refusal)
  (⟨read⟩, refused)

/-- The filter that is in force: the one that a variable writes, if it can be read; failing that
everything that helps to explain a run if that is asked for, and else the one in the settings.
What cannot be read in the settings is given as well. -/
def choose (wanted : Option String) (verbose : Bool) (level : String) :
    Filter × List (String × Directive.Refusal) :=
  match wanted >>= parse? with
  | some filter => (filter, [])
  | none => parseLeniently (if verbose then "debug" else level)

end Filter

end Confine.Log
