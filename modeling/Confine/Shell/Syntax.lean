set_option autoImplicit false

/-! # Shell commands

The language in which commands for a sandbox are written: words with quoting and expansions,
simple commands with redirections, and the usual ways to combine commands. What stands inside a
command substitution is kept as text and read when it is needed. -/

namespace Confine.Shell

/-- What is done about a variable that is unset, or set. -/
inductive Fallback where
  /-- Use the word instead of nothing. -/
  | default
  /-- Use the word instead of nothing, and keep it. -/
  | assign
  /-- Use the word instead of anything. -/
  | alternative
  /-- Fail with the word as the reason. -/
  | complain
  deriving DecidableEq, Repr

/-- A part of a word. The flags tell whether it is quoted. -/
inductive Part where
  /-- Characters that stand for themselves. -/
  | text (quoted : Bool) (chars : List Char)
  /-- The value of a parameter. -/
  | parameter (quoted : Bool) (name : String)
  /-- The number of characters in the value of a parameter. -/
  | length (quoted : Bool) (name : String)
  /-- The value of a parameter or something else; the second flag tells whether an empty value
  counts as unset. -/
  | substitute (quoted : Bool) (name : String) (emptyToo : Bool) (how : Fallback)
      (word : List Part)
  /-- The value of a parameter without a piece that matches a pattern, at its end or start; the
  last flag asks for the longest piece. -/
  | trim (quoted : Bool) (name : String) (atEnd longest : Bool) (pattern : List Part)
  /-- What a command writes, which stands in parentheses or in backquotes and whose first line has
  the given number. -/
  | output (quoted inParentheses : Bool) (line : Nat) (command : List Char)
  /-- The value of an arithmetic expression. -/
  | arithmetic (quoted : Bool) (expression : List Part)
  /-- Something in braces that is not the value of anything. -/
  | invalid
  deriving Inhabited

/-- A word. -/
abbrev Word := List Part

/-- What a redirection does. -/
inductive Direction where
  /-- Write to a file from its start, if files may be written over. -/
  | write
  /-- Write to a file from its start. -/
  | overwrite
  /-- Write at the end of a file. -/
  | append
  /-- Read from a file. -/
  | read
  /-- Read from a file and write to it. -/
  | both
  /-- Share what another descriptor leads to. -/
  | copy
  /-- Read a text that stands in the command. -/
  | document
  deriving DecidableEq, Repr, Inhabited

/-- A redirection of a descriptor. -/
structure Redirection where
  /-- The descriptor. -/
  descriptor : Nat
  /-- What is done with it. -/
  direction : Direction
  /-- The file, the other descriptor or the text. -/
  target : Word
  deriving Inhabited

/-- A command. -/
inductive Command where
  /-- Assignments and words, and the line on which they stand. -/
  | simple (line : Nat) (assignments : List (String × Word)) (words : List Word)
      (redirections : List Redirection)
  /-- A command with redirections. -/
  | redirected (line : Nat) (body : Command) (redirections : List Redirection)
  /-- Commands in a shell of their own. -/
  | subshell (body : List Command)
  /-- Commands one after another. -/
  | group (body : List Command)
  /-- Commands, each with the output of the one before as its input. -/
  | pipeline (stages : List Command)
  /-- A command whose outcome is turned around. -/
  | negate (body : Command)
  /-- A second command if the first succeeds. -/
  | both (first second : Command)
  /-- A second command if the first fails. -/
  | either (first second : Command)
  /-- A command that is not waited for. -/
  | background (body : Command)
  /-- Conditions with their commands, and commands for when none holds. -/
  | conditional (clauses : List (List Command × List Command)) (otherwise : List Command)
  /-- Commands repeated while a condition holds, or until it does. -/
  | loop (untilHolds : Bool) (condition body : List Command)
  /-- Commands repeated for each of some words, by default for each argument. -/
  | each (line : Nat) (name : String) (words : Option (List Word)) (body : List Command)
  /-- The commands whose pattern matches a word. -/
  | choose (line : Nat) (subject : Word) (arms : List (List Word × List Command))
  /-- The definition of a function, which starts on a line. -/
  | define (line : Nat) (name : String) (body : Command)
  deriving Inhabited

/-- The commands whose names no function may have, and whose failure ends a shell. -/
def specialCommands : List String :=
  ["break", ":", "continue", ".", "eval", "exec", "exit", "export", "local", "readonly", "return",
    "set", "shift", "times", "trap", "unset"]

end Confine.Shell
