import Confine.Shell.Builtin.Job
import Confine.Shell.Builtin.Limit
import Confine.Shell.Builtin.Output
import Confine.Shell.Scope

set_option autoImplicit false

/-! # Simple commands

A simple command has assignments, words and redirections. First its words are expanded, then the
redirections are followed, then the assignments are made, and last the command that the first word
names is run. A failure of a special command ends the shell, that of another one does not. -/

namespace Confine.Shell

open Act

/-! ## Leaving -/

/-- Leave some of the loops around, or go on with the next round of one, if there are any. -/
def leaveLoops (go : Nat → Halt) : Builtin := fun args => do
  let n ← match args with
    | [] => pure 1
    | a :: _ => do
      let n ← numberOf a
      if n = 0 then fail s!"Illegal number: {a}" else pure n
  let loops := (← get).loops
  if loops = 0 then pure 0
  else
    leave 0
    throw (go (min n loops - 1))

/-- The command `return`. -/
def leaveFunction : Builtin := fun args => do
  match args with
  | [] => pure ()
  | a :: _ => leave (← numberOf a)
  throw .return

/-- The command `exit`. -/
def leaveShell : Builtin := fun args => do
  match args with
  | [] => modify fun s => { s with status := s.saved.getD s.status }
  | a :: _ => do
    let n ← numberOf a
    modify fun s => { s with status := n }
  throw .exit

/-! ## Commands that run others -/

/-- The command `eval`. -/
def eval (i : Interpreter) (m : Manner) : Builtin := fun args => do
  let text := " ".intercalate args
  if (parse 1 text.toList).1.isEmpty then
    runText i { isTested := m.isTested } text
    pure 0
  else
    runText i { isTested := m.isTested } text
    return (← get).status

/-- The file that the command `.` reads: the first one in the directories for programs, unless the
name is a path. -/
def fileOf (name : String) : Act String := do
  if name.toList.contains '/' then pure name
  else
    let rec search : List String → Act String
      | [] => fail s!"{name}: not found"
      | directory :: rest => do
        let path := if directory.isEmpty then name else directory ++ "/" ++ name
        match ← look path with
        | .ok status => if status.kind = .file then pure path else search rest
        | .error _ => search rest
    search (programDirectories (((← get).value? "PATH").getD ""))

/-- The command `.`. -/
def readFile (i : Interpreter) : Builtin := fun args => do
  let (_, args) ← options "" args
  match args with
  | [] => pure 0
  | name :: _ =>
    let path ← fileOf name
    let descriptor ← openFile path .forReading
    let octets ← readAll descriptor
    close descriptor
    let text := String.ofList octets
    modify fun s => { s with context := path }
    match ← attempt (runText i {} text) with
    | .ok () =>
      let s ← get
      return if (parse 1 octets).1.isEmpty then 0 else s.status
    | .error .return => return (← get).status
    | .error halt => throw halt

/-- The command `exec`. -/
def exec (i : Interpreter) : Builtin := fun args => do
  let (_, args) ← options "" args
  match args with
  | [] => pure 0
  | name :: _ =>
    let place ← if name.toList.contains '/' then pure (.program name) else findProgram name none
    match place with
    | .program path => become i path args
    | .missing fault =>
      complain s!"{name}: {programFault fault}"
      leave (if fault = .notFound then 127 else 126)
      throw .exit
    | _ => pure 0

/-- The command `command` where it does not run a command. -/
def command : Builtin := fun args => do
  let (chosen, args) ← options "pvV" args
  let letters := chosen.map Prod.fst
  let path := if letters.contains 'p' then some usualPath else none
  match args with
  | name :: _ =>
    if letters.contains 'V' then describe true path name
    else if letters.contains 'v' then describe false path name
    else pure 0
  | [] => pure 0

/-- The builtin command with a name. -/
def builtin (i : Interpreter) (m : Manner) (name : String) : Builtin :=
  match name with
  | ":" | "true" => fun _ => pure 0
  | "false" => fun _ => pure 1
  | "echo" => echo
  | "printf" => printf
  | "test" => test "test"
  | "[" => test "["
  | "kill" => kill
  | "trap" => trap
  | "ulimit" => ulimit
  | "umask" => umask
  | "cd" | "chdir" => cd
  | "pwd" => pwd
  | "times" => times
  | "export" => exportAll
  | "readonly" => readonly
  | "local" => localize
  | "unset" => unset
  | "shift" => shift
  | "set" => setAll
  | "getopts" => getopts
  | "read" => read
  | "wait" => wait
  | "jobs" => jobs
  | "fg" | "bg" => toTerminal
  | "alias" => nameWords
  | "unalias" => unalias
  | "type" => type
  | "hash" => hash
  | "command" => command
  | "eval" => eval i m
  | "." => readFile i
  | "exec" => exec i
  | "exit" => leaveShell
  | "return" => leaveFunction
  | "break" => leaveLoops .leave
  | "continue" => leaveLoops .again
  | _ => fun _ => pure 127

/-- Run a builtin command and write what it has to say. -/
def runBuiltin (i : Interpreter) (m : Manner) (name : String) (args : List String) : Act Unit := do
  let before := (← get).context
  let work : Act Unit := do
    modify fun s => { s with context := name }
    let status ← builtin i m name args
    let written ← flush
    if written then leave status
    else
      modify fun s => { s with context := name }
      complain s!"{name}: I/O error"
      leave (status ||| 1)
  ensuring work (modify fun s => { s with context := before, said := [] })

/-! ## Words -/

/-- What a simple command asks for. -/
structure Wish where
  /-- Its words, from the name on. -/
  words : List String := []
  /-- Whether a special command was named first, if a builtin command was. -/
  isSpecial : Option Bool := none
  /-- Whether it is the command that changes the descriptors for good. -/
  isExec : Bool := false
  /-- Whether functions count. -/
  withFunctions : Bool := true
  /-- Where programs are looked for instead of the usual place. -/
  path : Option String := none
  /-- Whether its arguments can be assignments. -/
  assigns : Bool := false

/-- The fields of the first words that have any, and the words after these. -/
def firstFields (i : Interpreter) : List Word → Act (List String × List Word)
  | [] => pure ([], [])
  | word :: rest => do
    match ← expandFields i word with
    | [] => firstFields i rest
    | fields => pure (fields, rest)

/-- What follows the word `command`: the path for programs and the fields from a name on, if there
is a command to be run, or else all fields. It also gives the words that are left. The number bounds
how many options there are. -/
def afterCommand (i : Interpreter) : Nat → Option String → List String → List String → List Word →
    Act (Except (List String) (Option String × List String) × List Word)
  | 0, _, seen, fields, rest => pure (.error (seen ++ fields), rest)
  | bound + 1, path, seen, fields, rest => do
    let (fields, rest) ← if fields.isEmpty then firstFields i rest else pure (fields, rest)
    match fields with
    | [] => return (.error seen, rest)
    | field :: more =>
      let seen := seen ++ [field]
      match field.toList with
      | ['-', '-'] =>
        let (fields, rest) ← if more.isEmpty then firstFields i rest else pure (more, rest)
        return (if fields.isEmpty then .error seen else .ok (path, fields), rest)
      | '-' :: c :: letters =>
        if (c :: letters).all (· == 'p') then afterCommand i bound (some usualPath) seen more rest
        else return (.error (seen ++ more), rest)
      | _ => return (.ok (path, fields), rest)

/-- Find out what the first words ask for. The number bounds how often `command` stands in front.
It gives the wish and the words that are left. -/
def wishOf (i : Interpreter) : Nat → Wish → List String → List Word → Act (Wish × List Word)
  | 0, wish, fields, rest => pure ({ wish with words := fields }, rest)
  | bound + 1, wish, fields, rest => do
    match fields with
    | [] => return (wish, rest)
    | name :: more =>
      match ← find wish.withFunctions name wish.path with
      | .builtin =>
        let wish := { wish with
          isSpecial := some (wish.isSpecial.getD (specialCommands.contains name))
          isExec := name == "exec"
          assigns := assigningCommands.contains name }
        if name ≠ "command" then return ({ wish with words := fields }, rest)
        else
          match ← afterCommand i mostChildren wish.path [] more rest with
          | (.ok (path, fields), rest) =>
            wishOf i bound { wish with withFunctions := false, path } fields rest
          | (.error fields, rest) => return ({ wish with words := name :: fields }, rest)
      | _ => return ({ wish with words := fields }, rest)

/-- Expand an argument, which can be an assignment. -/
def expandArgument (i : Interpreter) (assigns : Bool) (word : Word) : Act (List String) := do
  match if assigns then assignment? word else none with
  | some (name, value) => return [name ++ "=" ++ (← expandText i .afterColons value)]
  | none => expandFields i word

/-! ## Running -/

/-- Make the assignments of a command. Those that are only for the command are passed on, and what
the variables were before is told, the latest first. -/
def makeAssignments (i : Interpreter) (isLocal isPassedOn : Bool) :
    List (String × Word) → List (String × Option Variable) →
    Act (List (String × Option Variable) × Bool)
  | [], before => pure (before, true)
  | (name, word) :: rest, before => do
    let step : Act (Option Variable) := do
      let value ← expandText i .afterColons word
      let old := (← get).vars.lookup name
      assign name value
      if isLocal || isPassedOn then
        modify fun s => s.change name fun v => { v with isPassedOn := true }
      pure old
    match ← attempt step with
    | .ok old => makeAssignments i isLocal isPassedOn rest ((name, old) :: before)
    | .error .failure => pure (before, false)
    | .error halt => throw halt

/-- Trace a command: the values that it assigns and its words, on the standard error that was there
before its redirections. -/
def trace (i : Interpreter) (descriptor : Nat) (names words : List String) : Act Unit := do
  let s ← get
  if s.has 'x' then
    let mark ← match readDocument s.line ((s.value? "PS4").getD "").toList with
      | .ok word => expandText i .nowhere word
      | .error _ => pure ""
    let assignments := names.map fun x => x ++ "=" ++ (s.value? x).getD ""
    let _ ← write descriptor (mark ++ " ".intercalate (assignments ++ words) ++ "\n").toList

/-- Run the command that the words ask for. -/
def runWish (i : Interpreter) (m : Manner) (wish : Wish) : Act Unit := do
  match wish.words with
  | [] => modify fun s => { s with status := s.inner }
  | name :: args =>
    match ← find wish.withFunctions name wish.path with
    | .function line body => runFunction i m line body args
    | .builtin =>
      match ← attempt (runBuiltin i m name args) with
      | .error .failure => if wish.isSpecial = some true then throw .failure
      | other => resume other
    | .program path => runProgram i m path wish.words
    | .missing fault =>
      complain s!"{name}: {programFault fault}"
      leave 127

/-- Run a simple command. -/
def runSimple (i : Interpreter) (m : Manner) (line : Nat) (assignments : List (String × Word))
    (words : List Word) (redirections : List Redirection) : Act Unit := do
  modify fun s => { s with line, inner := 0 }
  let (fields, rest) ← firstFields i words
  let (wish, rest) ← wishOf i mostChildren {} fields rest
  let more ← rest.mapM (expandArgument i wish.assigns)
  let wish := { wish with words := wish.words ++ more.flatten }
  let isSpecial := wish.isSpecial == some true
  let isLocal := !wish.words.isEmpty && !isSpecial
  let isExec := wish.isExec && wish.words.length > 1
  let routes ← routesOf i redirections
  let (formers, opened) ← followAll i routes []
  let body : Act Unit := do
    if !opened then
      leave 2
      if isSpecial then throw .failure
    else
      let (before, made) ← makeAssignments i isLocal isExec assignments []
      let restore : Act Unit := do
        if isLocal then
          modify fun s => before.foldl (fun s (x, old) => s.restore x old) s
      let run : Act Unit := do
        if !made then throw .failure
        let errors := match formers.lookup 2 with
          | some (.kept n) => n
          | _ => 2
        if !(assignments.isEmpty && wish.words.isEmpty) then
          trace i errors (assignments.map Prod.fst) wish.words
        runWish i m wish
      ensuring run restore
  match ← attempt body with
  | .ok () => if wish.isExec && opened then dropFormers formers else bringBack formers
  | .error halt =>
    bringBack formers
    throw halt

end Confine.Shell
