import Confine.CommandLine.Grammar

set_option autoImplicit false

/-! # Help on command lines

What may be given at a word of a command line, for a reader: how it is used, the words that may
follow, and the switches. -/

namespace Confine.CommandLine

/-- A switch as it is written. -/
def Switch.render (s : Switch) : String :=
  let letter := s.letter.elim "    " fun c => String.ofList ['-', c, ',', ' ']
  let value := match s.role with
    | .take _ => " <" ++ s.name.map Char.toUpper ++ ">"
    | _ => ""
  "  " ++ letter ++ "--" ++ s.name ++ value

/-- How the command with a path is used. -/
def usage (path : List String) (g : Grammar) : String :=
  let operands := String.join (g.operands.map fun o => " <" ++ o.name ++ ">")
  let command := if g.commands.isEmpty then "" else " <COMMAND>"
  "Usage: " ++ " ".intercalate path ++ " [OPTIONS]" ++ operands ++ command

/-- Help on the command with a path. -/
def help (path : List String) (g : Grammar) : String :=
  let commands := g.commands.map fun c => "  " ++ c.name
  let switches := g.switches.map Switch.render
  let group (title : String) (lines : List String) : List String :=
    if lines.isEmpty then [] else ["", title] ++ lines
  "\n".intercalate
    (usage path g :: (group "Commands:" commands ++ group "Options:" switches)) ++ "\n"

/-- Help on the command that a path leads to; a word that leads nowhere is passed over. -/
def helpAt (path : List String) : Grammar → List String → String
  | g, [] => help path g
  | g, name :: rest => helpAt path ((g.command? name).getD g) rest

end Confine.CommandLine
