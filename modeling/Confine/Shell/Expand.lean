import Confine.Shell.Arithmetic
import Confine.Shell.Field
import Confine.Shell.Glob
import Confine.Shell.Lines

set_option autoImplicit false

/-! # Expansion of words

What the parts of a word stand for: values of parameters, what commands write, and values of
arithmetic expressions. A word is expanded to fields where several may come of it, and to one text
everywhere else. -/

namespace Confine.Shell

open Act

/-- Give up if a parameter has no value and may not be used for that reason. -/
def demand (parameter : String) : Act Unit := do
  let s ← get
  if s.has 'u' && parameter ≠ "@" && parameter ≠ "*" && (s.parameter? parameter).isNone then
    fail s!"{parameter}: parameter not set"

/-- Set a variable, if it may be changed. -/
def assign (name value : String) : Act Unit := do
  if (← get).isFixed name then fail s!"{name}: is read only"
  else modify fun s => s.assign name value

/-- What commands write, without the newlines at the end. -/
def outputOf (i : Interpreter) (line : Nat) (command : List Char) : Act (List Char) := do
  match parse line command with
  | (_, some (line, fault)) =>
    modify fun s => { s with line }
    fail fault.message
  | ([], none) =>
    modify fun s => { s with inner := 0 }
    pure []
  | (lines, none) =>
    match ← call .pipe with
    | .error _ => fail "Pipe call failed"
    | .ok (source, sink) =>
      let pid ← forkShell i do
        close source
        moveTo sink 1
        i.run { isLast := true } (.group lines.flatten)
      close sink
      let octets ← readAll source
      close source
      let inner ← waitFor [pid]
      modify fun s => { s with inner }
      return dropNewlines (octets.filter (· ≠ '\x00'))

/-- The value of an arithmetic expression. A processor does not survive some divisions. -/
def valueOf (text : List Char) : Act Int := do
  let s ← get
  match Arithmetic.parse text >>= fun e => Arithmetic.eval e s with
  | .ok (n, s) =>
    set s
    pure n
  | .error .overflow =>
    let _ ← call (.signal (← call .self) 8)
    spin
  | .error fault => fail (fault.message (String.ofList text))

mutual

/-- Expand a word to cells. The flag tells whether it is at its start. -/
def expandParts (i : Interpreter) (t : Tilde) : Bool → List Part → Act (List Cell)
  | _, [] => pure []
  | isFirst, part :: rest => do
    let cells ← expandPart i t isFirst rest.isEmpty part
    let more ← expandParts i t false rest
    return cells ++ more

/-- Expand a part of a word to cells. The flags tell whether it is the first and the last one. -/
def expandPart (i : Interpreter) (t : Tilde) (isFirst isLast : Bool) : Part → Act (List Cell)
  | .text true [] => pure [.mark]
  | .text true cs => pure (cs.map fun c => .char c true)
  | .text false cs => do
    if t = .nowhere then return cs.map fun c => .char c false
    else return tildeCells (← get) t isLast isFirst cs
  | .parameter quoted "@" => do return argumentCells (← get) quoted
  | .parameter true "*" => do return joinedCells (← get)
  | .parameter false "*" => do return argumentCells (← get) false
  | .parameter quoted x => do
    demand x
    let s ← get
    return valueCells s quoted ((s.parameter? x).getD "").toList
  | .length quoted x => do
    demand x
    let s ← get
    return valueCells s quoted (toString ((s.parameter? x).getD "").length).toList
  | .substitute quoted x emptyToo how word => do
    let s ← get
    let isSet := (s.parameter? x).any fun v => !(emptyToo && v.isEmpty)
    let own : List Cell :=
      if x = "@" ∨ (x = "*" ∧ !quoted) then argumentCells s quoted
      else if x = "*" then joinedCells s
      else valueCells s quoted ((s.parameter? x).getD "").toList
    match how with
    | .default =>
      if isSet then pure own
      else
        let cells ← expandParts i (if quoted then .nowhere else .atStart) true word
        return separated (← get) quoted cells
    | .alternative =>
      if !isSet then pure (if quoted then [.mark] else [])
      else
        let cells ← expandParts i (if quoted then .nowhere else .atStart) true word
        return separated (← get) quoted cells
    | .assign =>
      if isSet then pure own
      else
        let cells ← expandParts i (if quoted then .nowhere else .atStart) true word
        let text := plainText ((← get).separators.take 1) cells
        assign x (String.ofList text)
        return valueCells (← get) quoted text
    | .complain =>
      if isSet then pure own
      else
        let cells ← expandParts i (if quoted then .nowhere else .atStart) true word
        let usual := if emptyToo then "parameter not set or null" else "parameter not set"
        let reason := String.ofList (plainText ((← get).separators.take 1) cells)
        fail s!"{x}: {if word.isEmpty then usual else reason}"
  | .trim quoted x atEnd longest pattern => do
    demand x
    let cells ← expandParts i .atStart true pattern
    let s ← get
    let pattern := patternOf (s.separators.take 1) cells
    return valueCells s quoted (trimPattern atEnd longest pattern ((s.parameter? x).getD "").toList)
  | .output quoted _ line command => do
    let octets ← outputOf i line command
    return valueCells (← get) quoted octets
  | .arithmetic quoted expression => do
    let cells ← expandParts i .nowhere true expression
    let n ← valueOf (plainText ((← get).separators.take 1) cells)
    return valueCells (← get) quoted (toString n).toList
  | .invalid => fail "Bad substitution"

end

/-- Expand a word to fields. -/
def expandFields (i : Interpreter) (word : Word) : Act (List String) := do
  let cells ← expandParts i .atStart true word
  let found ← (fields none false cells).mapM globbed
  return found.flatten

/-- Expand a word to a text. -/
def expandText (i : Interpreter) (t : Tilde) (word : Word) : Act String := do
  let cells ← expandParts i t true word
  return String.ofList (plainText ((← get).separators.take 1) cells)

/-- Expand a word to a pattern. -/
def expandPattern (i : Interpreter) (word : Word) : Act (List PatternChar) := do
  let cells ← expandParts i .atStart true word
  return patternOf ((← get).separators.take 1) cells

end Confine.Shell
