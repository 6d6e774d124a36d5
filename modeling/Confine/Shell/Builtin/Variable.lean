import Confine.Shell.Builtin.Basic
import Confine.Shell.Expand

set_option autoImplicit false

/-! # Variables, arguments and options

The commands that look at variables and change them, and those that set the arguments and the
options of the shell. -/

namespace Confine.Shell

open Act

/-! ## Variables -/

/-- Cut an argument at its first equals sign. -/
def splitAssignment (arg : String) : String × Option String :=
  let cs := arg.toList
  let name := String.ofList (cs.takeWhile (· ≠ '='))
  match cs.dropWhile (· ≠ '=') with
  | [] => (name, none)
  | _ :: value => (name, some (String.ofList value))

/-- Give up unless a name is that of a variable that may be changed. -/
def demandChange (name : String) : Act Unit := do
  if !isName name then fail s!"{name}: bad variable name"
  else if (← get).isFixed name then fail s!"{name}: is read only"

/-- Set a variable, if its name is good and if it may be changed. -/
def setVariable (name value : String) : Act Unit := do
  demandChange name
  modify fun s => s.assign name value

/-- The variables in the order of their names, as far as they are asked for. -/
def variablesWhere (holds : Variable → Bool) : Act (List (String × Variable)) := do
  return ((← get).vars.filter fun e => holds e.2).mergeSort fun a b => decide (a.1 ≤ b.1)

/-- Show variables after a word, in a form that can be read back. -/
def showVariables (word : String) (holds : Variable → Bool) : Act Nat := do
  let start := if word.isEmpty then "" else word ++ " "
  (← variablesWhere holds).forM fun (name, v) =>
    match v.value with
    | some value => say s!"{start}{name}={singleQuoted value}"
    | none => say s!"{start}{name}"
  pure 0

/-- Give variables a mark, and values if they are given. -/
def markVariables (word : String) (mark : Variable → Variable) (isMarked : Variable → Bool) :
    Builtin := fun args => do
  let (chosen, args) ← options "p" args
  if !chosen.isEmpty ∨ args.isEmpty then showVariables word isMarked
  else
    args.forM fun arg => do
      match splitAssignment arg with
      | (name, some value) =>
        setVariable name value
        modify fun s => s.change name mark
      | (name, none) =>
        if ((← get).vars.lookup name).isNone then demandChange name
        modify fun s => s.change name mark
    pure 0

/-- The command `export`. -/
def exportAll : Builtin :=
  markVariables "export" (fun v => { v with isPassedOn := true }) Variable.isPassedOn

/-- The command `readonly`. -/
def readonly : Builtin :=
  markVariables "readonly" (fun v => { v with isFixed := true }) Variable.isFixed

/-- Keep what a variable is outside a function for when the function is done. -/
def keepOutside (name : String) : Act Unit :=
  modify fun s => { s with
    locals := s.locals.map fun kept => (name, s.vars.lookup name) :: kept }

/-- The name by which a function keeps the options. -/
def optionsName : String := "-"

/-- The command `local`. -/
def localize : Builtin := fun args => do
  if (← get).locals.isNone then fail "not in a function"
  args.forM fun arg => do
    if arg = optionsName then
      modify fun s => { s with locals := s.locals.map fun kept =>
        (optionsName, some { value := some (String.ofList s.options) }) :: kept }
    else
      let (name, value) := splitAssignment arg
      if !isName name then fail s!"{name}: bad variable name"
      keepOutside name
      match value with
      | some value => setVariable name value
      | none => modify fun s => s.change name id
  pure 0

/-- The command `unset`. -/
def unset : Builtin := fun args => do
  let (chosen, names) ← options "vf" args
  let functions := (chosen.getLast?.map Prod.fst) == some 'f'
  names.forM fun name => do
    if functions then
      modify fun s => { s with functions := s.functions.filter fun f => f.1 ≠ name }
    else
      demandChange name
      modify fun s => s.restore name none
  pure 0

/-! ## Arguments and options -/

/-- The command `shift`. -/
def shift : Builtin := fun args => do
  let n ← match args with
    | [] => pure 1
    | a :: _ => numberOf a
  if n ≤ (← get).arguments.length then
    modify fun s => { s with
      arguments := s.arguments.drop n, nextArgument := 1, lettersTaken := none }
    pure 0
  else fail "can't shift that many"

/-- The options with long names alone. -/
def silentOptions : List String := ["nolog", "debug"]

/-- Show all options: for a reader, or in a form that can be read back. -/
def showOptions (forReader : Bool) : Act Unit := do
  let s ← get
  if forReader then say "Current option settings"
  let show1 (name : String) (isOn : Bool) : Act Unit :=
    if forReader then
      let blanks := String.ofList (List.replicate (16 - name.length) ' ')
      say (name ++ blanks ++ if isOn then "on" else "off")
    else say ((if isOn then "set -o " else "set +o ") ++ name)
  State.allOptions.reverse.forM fun (c, name) => show1 name (s.has c)
  silentOptions.forM fun name => show1 name false

/-- Turn the option with a long name on or off. -/
def setLong (on : Bool) (name : String) : Act Unit := do
  match State.allOptions.find? fun o => o.2 == name with
  | some (c, _) => modify fun s => s.turn on c
  | none => if silentOptions.contains name then pure () else fail s!"Illegal option -o {name}"

/-- Turn the option with a letter on or off. -/
def setShort (on : Bool) (c : Char) : Act Unit := do
  if (State.allOptions.map Prod.fst).contains c then modify fun s => s.turn on c
  else fail s!"Illegal option -{c}"

/-- Carry out the letters of one argument, and give the arguments after it. -/
def setLetters (on : Bool) : List Char → List String → Act (List String)
  | [], args => pure args
  | 'o' :: rest, args => do
    match args with
    | [] =>
      showOptions on
      setLetters on rest []
    | name :: args =>
      setLong on name
      setLetters on rest args
  | c :: rest, args => do
    setShort on c
    setLetters on rest args

/-- Set options and arguments. The number bounds how many words there are. -/
def setWords : Nat → List String → Act Unit
  | 0, _ => pure ()
  | _, [] => pure ()
  | bound + 1, word :: rest => do
    let arguments (args : List String) : Act Unit :=
      modify fun s => { s with arguments := args, nextArgument := 1, lettersTaken := none }
    match word.toList with
    | ['-', '-'] => arguments rest
    | ['-'] =>
      modify fun s => (s.turn false 'x').turn false 'v'
      if !rest.isEmpty then arguments rest
    | '-' :: letters => do setWords bound (← setLetters true letters rest)
    | '+' :: letters => do setWords bound (← setLetters false letters rest)
    | _ => arguments (word :: rest)

/-- The command `set`. -/
def setAll : Builtin := fun args => do
  if args.isEmpty then showVariables "" fun v => v.value.isSome
  else
    setWords (args.length + 1) args
    pure 0

/-! ## Options of a script -/

/-- What was found when looking for the next option. -/
structure OptionFound where
  /-- What the variable is set to. -/
  letter : Char
  /-- The argument of the option, if there is to be one. -/
  argument : Option String
  /-- What is said about a fault. -/
  complaint : Option String := none
  /-- Whether there are no options any more. -/
  isEnd : Bool := false
  /-- The number of the next argument. -/
  next : Nat
  /-- How many characters of the argument before it have been looked at, if it has more. -/
  taken : Option Nat := none

/-- Whether an option is one of those that are wanted, and whether it takes an argument. -/
def wanted? (c : Char) : List Char → Option Bool
  | [] => none
  | d :: ':' :: rest => if c = d then some true else wanted? c rest
  | d :: rest => if c = d then some false else wanted? c rest

/-- Look for the next option among some words, from a word and a position on. -/
def findOption (spec : List Char) (words : List String) (next : Nat) (taken : Option Nat) :
    OptionFound :=
  let quiet := spec.head? == some ':'
  let before : List Char := match taken with
    | some n => if next ≤ 1 then [] else ((words[next - 2]?).getD "").toList.drop n
    | none => []
  let atEnd (next : Nat) : OptionFound := { letter := '?', argument := none, isEnd := true, next }
  let go (next : Nat) (word : List Char) (left : List Char) : OptionFound :=
    match left with
    | [] => atEnd next
    | c :: rest =>
      let taken := if rest.isEmpty then none else some (word.length - rest.length)
      let fault (letter : Char) (complaint : String) : OptionFound :=
        if quiet then { letter, argument := some c.toString, next, taken }
        else { letter := '?', argument := none, complaint := some complaint, next, taken }
      match wanted? c spec with
      | none => fault '?' s!"Illegal option -{c}"
      | some false => { letter := c, argument := some "", next, taken }
      | some true =>
        if !rest.isEmpty then { letter := c, argument := some (String.ofList rest), next }
        else
          match words[next - 1]? with
          | some a => { letter := c, argument := some a, next := next + 1 }
          | none => fault ':' s!"No arg for -{c} option"
  if !before.isEmpty then go next ((words[next - 2]?).getD "").toList before
  else
    match (words[next - 1]?).map String.toList with
    | some ['-', '-'] => atEnd (next + 1)
    | some ('-' :: c :: rest) => go (next + 1) ('-' :: c :: rest) (c :: rest)
    | _ => atEnd next

/-- The command `getopts`. -/
def getopts : Builtin
  | spec :: name :: words => do
    let s ← get
    let words := if words.isEmpty then s.arguments else words
    let tooFar := words.length + 1 < s.nextArgument
    let found := findOption spec.toList words (if tooFar then 1 else s.nextArgument)
      (if tooFar then none else s.lettersTaken)
    match found.complaint with
    | some text => let _ ← write 2 (text ++ "\n").toList
    | none => pure ()
    if !found.isEnd then
      match found.argument with
      | some a => setVariable "OPTARG" a
      | none => modify fun s => s.restore "OPTARG" none
    setVariable "OPTIND" (toString found.next)
    setVariable name found.letter.toString
    modify fun s => { s with nextArgument := found.next, lettersTaken := found.taken }
    return if found.isEnd then 1 else 0
  | _ => fail "Usage: getopts optstring var [arg...]"

/-! ## Reading -/

/-- How far a line has been cut into fields. -/
structure Cutting where
  /-- The fields, the latest first. -/
  done : List String := []
  /-- The characters of the current field, the latest first. -/
  current : List Char := []
  /-- How many fields there can be still, the current one included; zero once the last of them has
  been found to go on. -/
  left : Nat
  /-- How many characters of the current field are kept, if not all of them. -/
  kept : Option Nat := none
  /-- Whether the last character was a blank between fields. -/
  spaced : Bool := false

/-- Go on with a character. The flag tells whether it can separate fields. -/
def Cutting.add (separators : List Char) (k : Cutting) (c : Char) (canSeparate : Bool) : Cutting :=
  let pushed := { k with current := c :: k.current }
  let separates := separators.contains c
  let soft := separates && isSoft c
  if !canSeparate then { pushed with spaced := false }
  else if k.left = 0 then
    if soft then { pushed with kept := some (k.kept.getD k.current.length) }
    else
      { pushed with kept := if separates && k.spaced then k.kept else none, spaced := false }
  else if k.spaced then
    if soft then k
    else if separates then { k with spaced := false }
    else { pushed with spaced := false }
  else if !separates then pushed
  else if soft && k.current.isEmpty then k
  else if k.left = 1 then
    { pushed with left := 0, kept := some k.current.length, spaced := soft }
  else
    { k with
      done := String.ofList k.current.reverse :: k.done
      current := [], left := k.left - 1, spaced := soft }

/-- The fields of a line. -/
def Cutting.fields (k : Cutting) : List String :=
  let last := (k.kept.elim id List.take) k.current.reverse
  (if last.isEmpty then k.done else String.ofList last :: k.done).reverse

/-- Read a line through the standard input, one byte at a time, as characters that can separate
fields or cannot. A backslash hides the next character. It tells whether the line has an end. The
number bounds how many bytes are read. -/
def readLineFrom (isRaw : Bool) :
    Nat → Bool → List (Char × Bool) → System.Work (List (Char × Bool) × Bool)
  | 0, _, cs => pure (cs.reverse, false)
  | bound + 1, hidden, cs => do
    match ← System.Work.call (.read 0 1) with
    | .ok (b :: _) =>
      let c := Text.ofByte b
      if c = '\x00' then readLineFrom isRaw bound hidden cs
      else if hidden then
        readLineFrom isRaw bound false (if c = '\n' then cs else (c, false) :: cs)
      else if c = '\\' ∧ !isRaw then readLineFrom isRaw bound true cs
      else if c = '\n' then pure (cs.reverse, true)
      else readLineFrom isRaw bound false ((c, true) :: cs)
    | _ => pure (cs.reverse, false)

/-- The command `read`. -/
def read : Builtin := fun args => do
  let (chosen, names) ← takeOptions ['r'] ['p'] (args.length + 1) args
  if names.isEmpty then fail "arg count"
  let isRaw := chosen.any fun o => o.1 == 'r'
  let (cs, hasEnd) ← work (readLineFrom isRaw System.Work.mostReads false [])
  let separators := (← get).separators
  let start : Cutting := { left := names.length }
  let cut := cs.foldl (fun (k : Cutting) (c, canSeparate) => k.add separators c canSeparate) start
  let values := cut.fields
  (names.zipIdx).forM fun (name, n) => setVariable name ((values[n]?).getD "")
  return if hasEnd then 0 else 1

end Confine.Shell
