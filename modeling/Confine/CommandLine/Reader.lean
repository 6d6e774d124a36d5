import Confine.CommandLine.Grammar
import Confine.Location

set_option autoImplicit false

/-! # Reading command lines

A command line is read from left to right. A word that may follow the current one leads to the
next grammar; what starts with a dash is a switch, up to a double dash that stands alone; all
else is an operand. The value of a switch is attached to it or comes next, and what comes next
is a value only if it does not look like a switch itself.

A value is checked when the next item has been read, and the last one given at a word is checked
only after everything at the words that follow. This order decides between a misuse and a
question for help or the version that stands after it. -/

namespace Confine.CommandLine

/-- Why a command line is not understood. -/
inductive Misuse where
  /-- There is no such switch. -/
  | unknownSwitch (text : String)
  /-- There is no such command. -/
  | unknownCommand (text : String)
  /-- There is nothing that this could be. -/
  | unexpected (text : String)
  /-- A switch that takes no value was given one. -/
  | unexpectedValue (name : String)
  /-- A switch that takes a value was given none. -/
  | missingValue (name : String)
  /-- A switch was given twice. -/
  | repeated (name : String)
  /-- A value is not of the right kind. -/
  | invalidValue (name value : String)
  /-- An operand was not given. -/
  | missingOperand (name : String)
  /-- No command was given. -/
  | missingCommand
  deriving DecidableEq, Repr

/-- The wording of a misuse. -/
def Misuse.message : Misuse → String
  | .unknownSwitch text => s!"unknown option '{text}'"
  | .unknownCommand text => s!"unknown command '{text}'"
  | .unexpected text => s!"unexpected argument '{text}'"
  | .unexpectedValue name => s!"option '--{name}' takes no value"
  | .missingValue name => s!"option '--{name}' needs a value"
  | .repeated name => s!"option '--{name}' is given twice"
  | .invalidValue name value => s!"invalid value '{value}' for '{name}'"
  | .missingOperand name => s!"argument '{name}' is missing"
  | .missingCommand => "a command is missing"

/-- Why reading ended without a command. -/
inductive Refusal where
  /-- Help was asked for, on the command with a path. -/
  | help (path : List String)
  /-- The version was asked for, of the command with a path. -/
  | version (path : List String)
  /-- The command line is not understood. -/
  | misuse (cause : Misuse)
  deriving DecidableEq, Repr

/-- A value that has not been checked yet. -/
structure Pending where
  /-- The name of its switch or operand. -/
  name : String
  /-- What it may be. -/
  kind : ValueKind
  /-- The value; `none` while it is still to come. -/
  value : Option String
  /-- Whether it belongs to an operand. -/
  isOperand : Bool
  /-- Whether several values may be given. -/
  repeats : Bool
  deriving DecidableEq, Repr

/-- What has been read at one word of the path. -/
structure Progress where
  /-- The switches with their values, in order; a switch without value has the empty one. -/
  given : List (String × String) := []
  /-- The operands, in order. -/
  operands : List String := []
  /-- The value that has not been checked yet. -/
  pending : Option Pending := none
  deriving DecidableEq, Repr

namespace Progress

/-- Whether the next item may be the value of a switch. -/
def awaitsValue (p : Progress) : Bool :=
  p.pending.any fun w => w.value.isNone

/-- The number of operands that have been read. -/
def operandCount (p : Progress) : Nat :=
  p.operands.length + (if p.pending.any Pending.isOperand then 1 else 0)

/-- Note a switch with its value. -/
def give (p : Progress) (name value : String) (repeats : Bool) : Except Misuse Progress :=
  if !repeats && (p.given.lookup name).isSome then .error (.repeated name)
  else .ok { p with given := p.given ++ [(name, value)] }

/-- Check the value that has not been checked yet. -/
def settle (p : Progress) : Except Misuse Progress :=
  match p.pending with
  | none => .ok p
  | some w =>
    let p := { p with pending := none }
    match w.value with
    | none => .error (.missingValue w.name)
    | some value =>
      if !w.kind.accepts value then .error (.invalidValue w.name value)
      else if w.isOperand then .ok { p with operands := p.operands ++ [value] }
      else p.give w.name value w.repeats

/-- Meet a switch that takes a value. An attached value is checked at once. -/
def take (p : Progress) (s : Switch) (kind : ValueKind) (attached : Option String) :
    Except Misuse Progress := do
  let p ← p.settle
  let waiting : Progress := { p with pending := some ⟨s.name, kind, attached, false, s.repeats⟩ }
  if attached.isSome then waiting.settle else .ok waiting

/-- Meet a value for the switch that awaits one. -/
def supply (p : Progress) (value : String) : Progress :=
  { p with pending := p.pending.map fun w => { w with value := some value } }

/-- Meet an operand. -/
def operand (p : Progress) (g : Grammar) (value : String) : Except Misuse Progress :=
  match g.operands[p.operandCount]? with
  | none => .error (.unexpected value)
  | some o => do
    let p ← p.settle
    .ok { p with pending := some ⟨o.name, o.kind, some value, true, false⟩ }

end Progress

/-- Meet a switch; `attached` is the value attached to it. -/
def meet (path : List String) (p : Progress) (s : Switch) (attached : Option String) :
    Except Refusal Progress :=
  let settled := p.settle.mapError .misuse
  match s.role with
  | .take kind => (p.take s kind attached).mapError .misuse
  | role => do
    if attached.isSome then .error (.misuse (.unexpectedValue s.name))
    else
      let p ← settled
      match role with
      | .help => .error (.help path)
      | .version => .error (.version path)
      | _ => (p.give s.name "" s.repeats).mapError .misuse

/-- The value that is attached to a letter, which an equals sign may separate from it. -/
def attachedToLetter (cs : List Char) : Option String :=
  match cs with
  | [] => none
  | '=' :: rest => some (String.ofList rest)
  | _ => some (String.ofList cs)

/-- Read the letters after a single dash. The first that takes a value takes the rest as its
value, unless nothing is left. -/
def readLetters (path : List String) (g : Grammar) : List Char → Progress →
    Except Refusal Progress
  | [], p => .ok p
  | c :: rest, p =>
    match g.letter? c with
    | none => .error (.misuse (.unknownSwitch (String.ofList ['-', c])))
    | some s =>
      match s.role with
      | .take _ => meet path p s (attachedToLetter rest)
      | _ => meet path p s none >>= readLetters path g rest

/-- Read a switch that is written with its name. -/
def readName (path : List String) (g : Grammar) (cs : List Char) (p : Progress) :
    Except Refusal Progress :=
  let name := String.ofList (cs.takeWhile (· ≠ '='))
  let attached := match cs.dropWhile (· ≠ '=') with
    | [] => none
    | _ :: value => some (String.ofList value)
  match g.switch? name with
  | none => .error (.misuse (.unknownSwitch ("--" ++ name)))
  | some s => meet path p s attached

/-- Follow the words after a question for help. -/
def helpOn (path : List String) (g : Grammar) : List String → Refusal
  | [] => .help path
  | name :: rest =>
    match g.command? name with
    | some c => helpOn (path ++ [name]) c rest
    | none =>
      if name = "help" ∧ !g.commands.isEmpty then .help (path ++ [name])
      else .misuse (.unknownCommand name)

/-- What a command line says. -/
structure Matches where
  /-- The words of the path, without the name of the program. -/
  path : List String := []
  /-- The switches with their values, in order, those at the first words first. -/
  given : List (String × String) := []
  /-- The values that variables give to switches. -/
  fallbacks : List (String × String) := []
  /-- The operands of the command. -/
  operands : List String := []
  deriving DecidableEq, Repr

/-- The values that variables give to the switches that were not given at a word. -/
def fallbacksAt (env : Environment) (given : List (String × String)) :
    List Switch → Except Misuse (List (String × String))
  | [] => .ok []
  | s :: rest => do
    let others ← fallbacksAt env given rest
    match s.role, (s.fallback >>= fun name => env.lookup name) with
    | .take kind, some value =>
      if (given.lookup s.name).isSome then .ok others
      else if kind.accepts value then .ok ((s.name, value) :: others)
      else .error (.invalidValue s.name value)
    | _, _ => .ok others

/-- Close a word of the path: check what is pending and what is missing, and put what was read
here before what was read at the words that follow. -/
def close (env : Environment) (g : Grammar) (p : Progress) (below : Option Matches) :
    Except Misuse Matches := do
  let p ← p.settle
  let fallbacks ← fallbacksAt env p.given g.switches
  match g.operands[p.operands.length]?, below with
  | some missing, _ => .error (.missingOperand missing.name)
  | none, some m =>
    .ok { m with path := g.name :: m.path, given := p.given ++ m.given,
                 fallbacks := fallbacks ++ m.fallbacks }
  | none, none =>
    if g.commands.isEmpty then .ok ⟨[g.name], p.given, fallbacks, p.operands⟩
    else .error .missingCommand

/-- Read items at a word of the path. The flag tells whether a double dash has come, after which
everything is an operand. -/
def readItems (env : Environment) (path : List String) (g : Grammar) :
    List String → Bool → Progress → Except Refusal Matches
  | [], _, p => (close env g p none).mapError .misuse
  | item :: rest, true, p => do
    readItems env path g rest true (← (p.operand g item).mapError .misuse)
  | item :: rest, false, p =>
    let cs := item.toList
    match (if p.awaitsValue then none else g.command? item) with
    | some c => do
      let below ← readItems env (path ++ [item]) c rest false {}
      (close env g p (some below)).mapError .misuse
    | none =>
      if item = "help" && !p.awaitsValue && !g.commands.isEmpty then
        .error (helpOn path g rest)
      else if item = "--" then readItems env path g rest true p
      else
        match cs with
        | '-' :: '-' :: name => do readItems env path g rest false (← readName path g name p)
        | '-' :: c :: letters => do
          readItems env path g rest false (← readLetters path g (c :: letters) p)
        | _ =>
          if p.awaitsValue then readItems env path g rest false (p.supply item)
          else do readItems env path g rest false (← (p.operand g item).mapError .misuse)

/-- Read a command line by the grammar of a program. The path of what is read starts below the
program's own name. -/
def read (env : Environment) (g : Grammar) (items : List String) : Except Refusal Matches :=
  (readItems env [g.name] g items false {}).map fun m => { m with path := m.path.drop 1 }

namespace Matches

/-- Whether a switch was given. -/
def has (m : Matches) (name : String) : Bool :=
  (m.given.lookup name).isSome

/-- All values that were given to a switch, in order. -/
def values (m : Matches) (name : String) : List String :=
  m.given.filterMap fun (n, value) => if n = name then some value else none

/-- The value of a switch: the last one given, or else the one that a variable gives. -/
def value? (m : Matches) (name : String) : Option String :=
  (m.values name).getLast? <|> m.fallbacks.lookup name

end Matches

end Confine.CommandLine
