import Confine.CommandLine.Reader
import Confine.Sandbox.Request

set_option autoImplicit false

/-! # Invocations

What a user asks of the program: a `Command` with its operands and options, and what is said for
every command alike. The grammar of the program's command line stands here, and `Invocation.read`
reads a command line by it. -/

namespace Confine.Program

/-- The name of the program. -/
def name : String := "execbox"

/-- The version of the program. -/
def version : String := "0.2.0"

/-- A command of the program. -/
inductive Command where
  /-- Decode a listing, and show its bytes or write them to a file. -/
  | decodeListing (listing : String) (output : Option String)
  /-- Show the bytes of a file as a listing. -/
  | encodeFile (file : String)
  /-- Load the code of a listing and call it. -/
  | runCode (listing : String) (args : List String) (architecture : Option String)
      (dump : Bool)
  /-- Read instructions from a file and try to assemble them. -/
  | assembleFile (file : String) (architecture : Option String)
  /-- Run a shell command in a sandbox. -/
  | runCommand (request : Sandbox.Request)
  /-- Run the code of a listing in a sandbox. -/
  | execCode (listing : String)
  /-- Show the defaults for sandboxes and what of them is enforced. -/
  | showDefaults
  /-- Show the settings in a form. -/
  | showSettings (form : String)
  /-- Show one setting. -/
  | getSetting (key : String)
  /-- Change one setting. -/
  | setSetting (key value : String)
  /-- Show the file of the settings. -/
  | showSource
  /-- Create the file of the settings; the flag permits to replace it. -/
  | createSource (force : Bool)
  /-- Show the directories of the program. -/
  | showPaths
  deriving DecidableEq, Repr

/-- A command, and what is said for every command alike. -/
structure Invocation where
  /-- Whether everything that helps to explain the run is to be shown. -/
  verbose : Bool
  /-- The file of the settings. -/
  config : Option String
  /-- The command. -/
  command : Command
  deriving DecidableEq, Repr

/-! ## The grammar -/

open CommandLine

/-- The switches that may be given at every word. -/
def commonSwitches : List Switch :=
  [ { name := "verbose", letter := some 'v' },
    { name := "config", letter := some 'c', role := .take .path,
      fallback := some "EXECBOX_CONFIG" },
    { name := "help", letter := some 'h', role := .help },
    { name := "version", letter := some 'V', role := .version } ]

/-- A word that ends the path. -/
def leaf (name : String) (switches : List Switch) (operands : List Operand) : Grammar :=
  .word name (switches ++ commonSwitches) operands []

/-- A word that others follow. -/
def branch (name : String) (commands : List Grammar) : Grammar :=
  .word name commonSwitches [] commands

/-- The words on listings. -/
def hexGrammar : Grammar :=
  branch "hex"
    [ leaf "decode" [{ name := "output", letter := some 'o', role := .take .path }]
        [{ name := "TEXT" }],
      leaf "encode" [] [{ name := "FILE", kind := .path }] ]

/-- The words on code. -/
def codeGrammar : Grammar :=
  branch "code"
    [ leaf "run"
        [ { name := "arg", letter := some 'a', role := .take .text, repeats := true },
          { name := "arch", role := .take .text },
          { name := "dump" } ]
        [{ name := "HEX" }],
      leaf "stream" [{ name := "arch", role := .take .text }]
        [{ name := "FILE", kind := .path }] ]

/-- The words on sandboxes. -/
def sandboxGrammar : Grammar :=
  branch "sandbox"
    [ leaf "run"
        [ { name := "mode", letter := some 'm', role := .take .mode },
          { name := "max-memory", role := .take .wide },
          { name := "max-cpu-ms", role := .take .wide },
          { name := "max-files", role := .take .narrow },
          { name := "max-processes", role := .take .narrow },
          { name := "poll-ms", role := .take .wide },
          { name := "json" } ]
        [{ name := "COMMAND" }],
      leaf "exec-code" [] [{ name := "HEX" }],
      leaf "status" [] [] ]

/-- The words on settings. -/
def configGrammar : Grammar :=
  branch "config"
    [ leaf "show" [{ name := "format", letter := some 'f', role := .take .text }] [],
      leaf "get" [] [{ name := "KEY" }],
      leaf "set" [] [{ name := "KEY" }, { name := "VALUE" }],
      leaf "path" [] [],
      leaf "init" [{ name := "force", letter := some 'f' }] [] ]

/-- The grammar of the program's command line. -/
def grammar : Grammar :=
  branch name [hexGrammar, codeGrammar, sandboxGrammar, configGrammar, leaf "paths" [] []]

/-! ## Reading -/

/-- The request to run a shell command. -/
def requestOf (m : Matches) (command : String) : Sandbox.Request where
  command := command
  mode := m.value? "mode" >>= Mode.ofName?
  maxMemory := m.value? "max-memory" >>= wide?
  maxCpuTime := m.value? "max-cpu-ms" >>= wide?
  maxFiles := m.value? "max-files" >>= narrow?
  maxProcesses := m.value? "max-processes" >>= narrow?
  pollInterval := m.value? "poll-ms" >>= wide?
  json := m.has "json"

/-- The command that the words and operands of a command line name. -/
def Command.ofMatches? (m : Matches) : Option Command :=
  match m.path, m.operands with
  | ["hex", "decode"], [listing] => some (.decodeListing listing (m.value? "output"))
  | ["hex", "encode"], [file] => some (.encodeFile file)
  | ["code", "run"], [listing] =>
    some (.runCode listing (m.values "arg") (m.value? "arch") (m.has "dump"))
  | ["code", "stream"], [file] => some (.assembleFile file (m.value? "arch"))
  | ["sandbox", "run"], [command] => some (.runCommand (requestOf m command))
  | ["sandbox", "exec-code"], [listing] => some (.execCode listing)
  | ["sandbox", "status"], [] => some .showDefaults
  | ["config", "show"], [] => some (.showSettings ((m.value? "format").getD "toml"))
  | ["config", "get"], [key] => some (.getSetting key)
  | ["config", "set"], [key, value] => some (.setSetting key value)
  | ["config", "path"], [] => some .showSource
  | ["config", "init"], [] => some (.createSource (m.has "force"))
  | ["paths"], [] => some .showPaths
  | _, _ => none

/-- Read a command line. -/
def Invocation.read (env : Environment) (items : List String) : Except Refusal Invocation := do
  let m ← CommandLine.read env grammar items
  match Command.ofMatches? m with
  | some command => .ok ⟨m.has "verbose", m.value? "config", command⟩
  | none => .error (.misuse .missingCommand)

end Confine.Program
