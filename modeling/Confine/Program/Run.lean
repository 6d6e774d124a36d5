import Confine.CommandLine.Help
import Confine.Program.Confinement
import Confine.Program.Invocation
import Confine.Program.Listings
import Confine.Program.Preferences

set_option autoImplicit false

/-! # Runs of the program

A run starts from a command line, from what surrounds it and from the files. It reads the
command line, loads the settings, settles how the journal is shown, and carries out the command,
in this order; the first failure ends it. What comes of it is an `Outcome`. -/

namespace Confine.Program

open Act

/-- What surrounds a run. -/
structure Surroundings where
  /-- The machine that calls code. -/
  machine : Machine
  /-- The variables. -/
  env : Environment
  /-- The home directory that the system knows for the user. -/
  knownHome : Option String

/-- What comes of a run. -/
structure Outcome where
  /-- The number that the program exits with, unless a signal was its end. -/
  status : Option UInt32
  /-- What it and its commands wrote to the standard output. -/
  output : List UInt8
  /-- What they wrote to the standard error. -/
  errors : List UInt8
  /-- The files after it. -/
  files : FileTree

/-! ## The parts of a run -/

/-- Load the settings. -/
def loadConfig (s : Surroundings) (path : Option String) : Act Config := do
  match Location.resolve? s.env s.env s.knownHome with
  | none =>
    fail "Failed to determine base directories: could not locate home directory"
  | some location =>
    match Config.load (← get).files location path with
    | .ok config => pure config
    | .error cause => throw ⟨cause.message, cause.causes⟩

/-- Create the directories of the program. -/
def ensureDirectories (l : Location) : Act Unit := do
  let (result, files) := l.ensureDirs (← get).files
  modify fun s => { s with files }
  match result with
  | .ok () => pure ()
  | .error (path, fault) => throw (.ofFault ("Failed to create directory: " ++ path) fault)

/-- Settle how the journal is shown. If it goes to a file, the file is created at once. -/
def startLogging (s : Surroundings) (verbose : Bool) (c : Config) : Act Unit := do
  let wanted := c.settings.logging
  let (filter, refused) := Log.Filter.choose (s.env.lookup "RUST_LOG") verbose wanted.level
  refused.forM fun (piece, refusal) =>
    notice s!"ignoring \x60{piece}\x60: {refusal.message}"
  if wanted.file then
    ensureDirectories c.location
    let path := c.location.logFile
    change ("Failed to open log file " ++ path) fun files => files.append path []
    modify fun scene => { scene with logger := some ⟨filter, wanted.format, some path⟩ }
  else
    modify fun scene => { scene with logger := some ⟨filter, wanted.format, none⟩ }

/-- Carry out a command. -/
def carryOut (s : Surroundings) (c : Config) : Command → Act Unit
  | .decodeListing listing output => decodeListing listing output
  | .encodeFile file => encodeFile file
  | .runCode listing args architecture dump => do
    print (toString (← runCode s.machine listing args architecture dump))
  | .assembleFile file architecture => assembleFile s.machine file architecture
  | .runCommand request => runCommand s.env c.settings.sandbox request
  | .execCode listing => do print (toString (← execCode s.machine s.env listing))
  | .showDefaults => showDefaults c
  | .showSettings form => showSettings c form
  | .getSetting key => getSetting c key
  | .setSetting key value => setSetting c key value
  | .showSource => print c.source
  | .createSource force => createSource c force
  | .showPaths => showPaths c.location

/-- Do what a user asks. -/
def perform (s : Surroundings) (i : Invocation) : Act Unit := do
  let config ← loadConfig s i.config
  startLogging s i.verbose config
  carryOut s config i.command

/-! ## What is seen of a run -/

/-- An entry on the standard output. -/
def Entry.toOutput : Entry → List UInt8
  | .output bytes => bytes
  | _ => []

/-- The line of an event, if it is shown. -/
def Logger.line (l : Logger) (e : Event) : List UInt8 :=
  if l.filter.admits e then Text.bytesOf (l.format.line e ++ "\n") else []

/-- An entry on the standard error. -/
def Entry.toErrors (logger : Option Logger) : Entry → List UInt8
  | .output _ => []
  | .notice bytes => bytes
  | .event e =>
    match logger with
    | none => []
    | some l => if l.file.isNone then l.line e else []

/-- An entry in the file of the journal. -/
def Entry.toFile (logger : Logger) : Entry → List UInt8
  | .event e => logger.line e
  | _ => []

/-- The files after a run, with what was said in the journal. -/
def Scene.finalFiles (s : Scene) : FileTree :=
  match s.logger with
  | none => s.files
  | some l =>
    match l.file with
    | none => s.files
    | some path =>
      match s.files.append path (s.transcript.flatMap (Entry.toFile l)) with
      | .ok files => files
      | .error _ => s.files

/-- The host after a run, when none of its processes can write any more. -/
def Scene.finalHost (s : Scene) : Sandbox.Host :=
  let h := s.host.getD {}
  { h with system := { h.system with files := s.finalFiles } }.settle

/-- The outcome of a run that ended in a scene, with the failure that ended it. Commands that went
on after it have the last word. -/
def Scene.outcome (s : Scene) (failure : Option Failure) : Outcome :=
  let host := s.finalHost
  let isOver := s.host.any Sandbox.Host.isOver
  let reason := if isOver then [] else failure.elim [] Failure.lines
  { status := if isOver then none else some (if failure.isSome then 1 else 0)
    output := s.transcript.flatMap Entry.toOutput ++ host.written false
    errors := s.transcript.flatMap (Entry.toErrors s.logger) ++
      Text.bytesOf (String.join (reason.map (· ++ "\n"))) ++ host.written true
    files := host.filesNow }

/-- The outcome where a command line names no command. -/
def refuse (files : FileTree) (r : CommandLine.Refusal) : Outcome :=
  let outcome (status : UInt32) (output errors : String) : Outcome :=
    { status := some status, output := Text.bytesOf output, errors := Text.bytesOf errors, files }
  match r with
  | .help path => outcome 0 (CommandLine.helpAt path grammar (path.drop 1)) ""
  | .version path => outcome 0 ("-".intercalate path ++ " " ++ version ++ "\n") ""
  | .misuse cause => outcome 2 "" ("error: " ++ cause.message ++ "\n")

/-- Run the program with a command line. -/
def run (s : Surroundings) (files : FileTree) (items : List String) : Outcome :=
  match Invocation.read s.env items with
  | .error refusal => refuse files refusal
  | .ok invocation =>
    match (perform s invocation).run { files } with
    | (.ok (), scene) => scene.outcome none
    | (.error failure, scene) => scene.outcome (some failure)

end Confine.Program
