import Confine.Shell.Act
import Confine.Shell.Number

set_option autoImplicit false

/-! # Commands that a shell knows by itself

A builtin command takes its arguments and gives the number that it ends with. What it writes to
its standard output is kept until it is done. Here is what these commands have in common: options
in front of the arguments, numbers, and texts in quotes. -/

namespace Confine.Shell

open Act

/-- A builtin command. -/
abbrev Builtin := List String → Act Nat

/-- The options in front of some arguments, in order, each with its argument if it takes one. -/
abbrev Chosen := List (Char × String)

/-- The letters of one argument as options, and the arguments after it. An option that takes an
argument has it in the rest of the letters or in the next argument. -/
def lettersOf (plain withArgument : List Char) : List Char → List String →
    Act (Chosen × List String)
  | [], args => pure ([], args)
  | c :: rest, args => do
    if withArgument.contains c then
      match rest, args with
      | [], [] => fail s!"No arg for -{c} option"
      | [], a :: args => return ([(c, a)], args)
      | _, args => return ([(c, String.ofList rest)], args)
    else if plain.contains c then
      let (more, args) ← lettersOf plain withArgument rest args
      return ((c, "") :: more, args)
    else fail s!"Illegal option -{c}"

/-- Take the options off the front of some arguments. The number bounds how many arguments there
are. -/
def takeOptions (plain withArgument : List Char) : Nat → List String → Act (Chosen × List String)
  | 0, args => pure ([], args)
  | _, [] => pure ([], [])
  | bound + 1, a :: args => do
    match a.toList with
    | '-' :: c :: rest =>
      if a = "--" then return ([], args)
      else
        let (chosen, args) ← lettersOf plain withArgument (c :: rest) args
        let (more, args) ← takeOptions plain withArgument bound args
        return (chosen ++ more, args)
    | _ => return ([], a :: args)

/-- Take options without arguments off the front of some arguments. -/
def options (plain : String) (args : List String) : Act (Chosen × List String) :=
  takeOptions plain.toList [] (args.length + 1) args

/-- The number that an argument writes. -/
def numberOf (a : String) : Act Nat := do
  match count? a with
  | some n => pure n
  | none => fail s!"Illegal number: {a}"

/-- A text in single quotes, in a form that can be read back. Quotes in it are put into double
quotes. -/
def singleQuoted (text : String) : String :=
  let quote := '\x27'
  let rec pieces : Nat → List Char → List Char
    | 0, _ => []
    | bound + 1, cs =>
      let plain := cs.takeWhile (· ≠ quote)
      let rest := cs.drop plain.length
      let quotes := rest.takeWhile (· == quote)
      let after := rest.drop quotes.length
      let start := quote :: plain ++ [quote]
      if quotes.isEmpty then start
      else
        let marked := '"' :: quotes ++ ['"']
        if after.isEmpty then start ++ marked else start ++ marked ++ pieces bound after
  String.ofList (pieces (text.length + 1) text.toList)

end Confine.Shell
