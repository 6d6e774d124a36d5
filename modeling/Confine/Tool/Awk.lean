import Confine.Tool.Awk.Run

set_option autoImplicit false

/-! # The tool `awk`

Its options give programs in files, the separator of fields and values for variables. The program
stands in the first argument unless it was given in files; the other arguments are files to work on
or values for variables that are given in between. -/

namespace Confine.Tool.Awk

open Run (setCell setItem setValue)

/-- What the options ask for. -/
structure Options where
  /-- The files with the program. -/
  files : List String := []
  /-- The separator of fields, if one was given. -/
  separator : Option String := none
  /-- The assignments. -/
  assignments : List String := []
  /-- The other arguments. -/
  operands : List String := []

/-- The options at the start of the arguments. The number bounds how many there are. -/
def optionsFrom : Nat → Options → List String → Except String Options
  | 0, o, args => .ok { o with operands := args }
  | _, o, [] => .ok o
  | bound + 1, o, a :: args =>
    let withArgument (c : Char) (text : List Char) (more : String → Options) :
        Except String Options :=
      match text, args with
      | [], [] => .error s!"option -{c} lacks argument"
      | [], v :: args => optionsFrom bound (more v) args
      | cs, _ => optionsFrom bound (more (String.ofList cs)) args
    match a.toList with
    | ['-', '-'] => .ok { o with operands := args }
    | '-' :: 'f' :: rest => withArgument 'f' rest fun v => { o with files := o.files ++ [v] }
    | '-' :: 'F' :: rest => withArgument 'F' rest fun v => { o with separator := some v }
    | '-' :: 'v' :: rest =>
      withArgument 'v' rest fun v => { o with assignments := o.assignments ++ [v] }
    | '-' :: 'W' :: rest => withArgument 'W' rest fun _ => o
    | '-' :: '-' :: _ => .error s!"not an option: {a}"
    | '-' :: c :: _ => .error s!"not an option: -{c}"
    | _ => .ok { o with operands := a :: args }

/-- The variables of a program before it runs. -/
def initial : List (String × Value) :=
  [ ("FS", .text [' ']), ("OFS", .text [' ']), ("ORS", .text ['\n']), ("RS", .text ['\n']),
    ("SUBSEP", .text ['\x1c']), ("CONVFMT", .text "%.6g".toList), ("OFMT", .text "%.6g".toList),
    ("NR", .number 0.0), ("FNR", .number 0.0), ("RSTART", .number 0.0),
    ("RLENGTH", .number (-1.0)), ("FILENAME", .nothing) ]

/-- Give the variables their values from the options and the arguments. -/
def prepare (setting : Setting) (o : Options) (arguments : List String) : Run Unit := do
  initial.forM fun e => setCell e.1 (.scalar e.2)
  let arguments := setting.name :: arguments
  setCell "ARGC" (.scalar (.ofNat arguments.length))
  ((List.range arguments.length).zip arguments).forM fun a =>
    setItem "ARGV" (wholeText (a.1 : Nat)) (.input a.2.toList)
  setting.vars.forM fun v =>
    setItem "ENVIRON" (Text.octets v.1).toList (.input (Text.octets v.2).toList)
  match o.separator with
  | some text => setValue "FS" (.text (Run.assigned text.toList))
  | none => pure ()
  o.assignments.forM fun text => do
    unless ← Run.assignFrom text.toList do Run.fail s!"improper assignment: -v {text}"

/-- The text of the program in some files. -/
def textOfFiles : List String → Chore (List Char)
  | [] => pure []
  | path :: rest => do
    let path := if path = "/dev/stdin" then "-" else path
    match ← Chore.readFrom path with
    | .error fault => Chore.fail ("cannot open \"" ++ path ++ "\" (" ++ fault.text ++ ")") 2
    | .ok (octets, _) => return octets ++ '\n' :: (← textOfFiles rest)

/-- What is said about how the tool is called. -/
def usage : String :=
  "Usage: mawk [Options] [Program] [file ...]\n"

end Awk

/-- The tool `awk`. -/
def awk : Utility := Chore.toWork do
  let setting := (← get).setting
  match Awk.optionsFrom (setting.arguments.length + 1) {} setting.arguments with
  | .error text => Chore.fail text 2
  | .ok o =>
    let (text, arguments) : List Char × List String ←
      match o.files, o.operands with
      | [], [] => do
        Chore.warn Awk.usage
        throw 0
      | [], program :: rest => pure (program.toList, rest)
      | files, rest => do pure (← Awk.textOfFiles files, rest)
    match Awk.Program.ofText text with
    | .error complaints =>
      complaints.forM Chore.complain
      throw 2
    | .ok p =>
      let whole : Awk.Run Unit := do
        Awk.prepare setting o arguments
        p.run
      let _ ← (whole.run).run { program := p }

end Confine.Tool
