set_option autoImplicit false

/-! # Forms of log lines

A log line is either plain text or a JSON object. -/

namespace Confine.Log

/-- The form of log lines. -/
inductive Format where
  /-- Plain text. -/
  | text
  /-- A JSON object a line. -/
  | json
  deriving DecidableEq, Repr, Inhabited

namespace Format

/-- Every form. -/
def all : List Format :=
  [.text, .json]

/-- The written name of a form. -/
def name : Format → String
  | .text => "text"
  | .json => "json"

/-- The name of a form as a constructor, used where it is shown by itself. -/
def label : Format → String
  | .text => "Text"
  | .json => "Json"

/-- The form with exactly this name. -/
def ofName? (text : String) : Option Format :=
  all.find? fun f => f.name == text

/-- The form with this name in any mixture of ASCII cases. -/
def ofNameAnyCase? (text : String) : Option Format :=
  all.find? fun f => f.name == text.map Char.toLower

/-- A form is found by its name and by no other one. -/
theorem ofName?_eq_some_iff {text : String} {f : Format} :
    ofName? text = some f ↔ f.name = text := by
  constructor
  · intro h
    have hfound := List.find?_some (p := fun f : Format => f.name == text) h
    exact beq_iff_eq.mp hfound
  · rintro rfl
    cases f <;> rfl

theorem ofNameAnyCase?_eq_some_iff {text : String} {f : Format} :
    ofNameAnyCase? text = some f ↔ f.name = text.map Char.toLower :=
  ofName?_eq_some_iff

end Format

end Confine.Log
