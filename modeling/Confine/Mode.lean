set_option autoImplicit false

/-! # Isolation modes

How much stands between a sandboxed command and the host. Names are read exactly where a
document or the command line gives them, and without regard to ASCII case where a setting is
changed by hand. -/

namespace Confine

/-- The isolation mode of a sandbox. -/
inductive Mode where
  /-- A child process and nothing around it. -/
  | none
  /-- A separate process, inside a limit container where the platform has one. -/
  | process
  /-- Machine code executed in the host process itself. -/
  | vm
  /-- Process isolation together with limits. -/
  | restricted
  deriving DecidableEq, Repr, Inhabited

namespace Mode

/-- Every mode, in the order of their declaration. -/
def all : List Mode :=
  [.none, .process, .vm, .restricted]

/-- The written name of a mode. -/
def name : Mode → String
  | .none => "none"
  | .process => "process"
  | .vm => "vm"
  | .restricted => "restricted"

/-- The name of a mode as a constructor, used where a whole record is shown. -/
def label : Mode → String
  | .none => "None"
  | .process => "Process"
  | .vm => "Vm"
  | .restricted => "Restricted"

/-- The mode with exactly this name. -/
def ofName? (text : String) : Option Mode :=
  all.find? fun m => m.name == text

/-- The mode with this name in any mixture of ASCII cases. -/
def ofNameAnyCase? (text : String) : Option Mode :=
  all.find? fun m => m.name == text.map Char.toLower

/-- A mode is found by its name and by no other one. -/
theorem ofName?_eq_some_iff {text : String} {m : Mode} :
    ofName? text = some m ↔ m.name = text := by
  constructor
  · intro h
    have hfound := List.find?_some (p := fun m : Mode => m.name == text) h
    exact beq_iff_eq.mp hfound
  · rintro rfl
    cases m <;> rfl

theorem ofNameAnyCase?_eq_some_iff {text : String} {m : Mode} :
    ofNameAnyCase? text = some m ↔ m.name = text.map Char.toLower :=
  ofName?_eq_some_iff

/-- The modes whose sandboxes ask for a limit container when they are created. -/
def usesContainer : Mode → Bool
  | .process | .restricted => true
  | .none | .vm => false

end Mode

end Confine
