import Confine.Tool.Awk.Token

set_option autoImplicit false

/-! # Reading programs

A program is read from its words by one reader for each kind of part. Operators bind in ten levels,
the loosest first: `||`, `&&`, `in`, matching, comparing, one text after another, sums, products,
signs, powers. A value can be given to a place only where an operand of the first five begins. The
numbers bound how much there is to read. -/

namespace Confine.Tool.Awk

/-- What is left to read. -/
structure Unread where
  /-- The words. -/
  tokens : List Placed
  /-- How many braces are open. -/
  braces : Nat := 0
  /-- How many parentheses are open. -/
  parentheses : Nat := 0

/-- A reader of a part. -/
abbrev Read (α : Type) : Type :=
  StateT Unread (Except Complaint) α

/-- Where a statement stands. -/
structure Surroundings where
  /-- Whether it is in a loop. -/
  inLoop : Bool := false
  /-- Whether it is in a function. -/
  inFunction : Bool := false
  /-- Whether it is in a rule for records. -/
  inRule : Bool := true

namespace Read

variable {α : Type}

/-- The next word, with its line. -/
def peek : Read Placed := do
  return (← get).tokens.headD (.finish, 0)

/-- The word after the next one. -/
def peekSecond : Read Token := do
  return ((← get).tokens.drop 1).head?.elim .finish Prod.fst

/-- Pass over the next word. -/
def drop : Read Unit :=
  modify fun u =>
    let (braces, parentheses) := match u.tokens with
      | (.sign "\x7b", _) :: _ => (u.braces + 1, u.parentheses)
      | (.sign "\x7d", _) :: _ => (u.braces - 1, u.parentheses)
      | (.sign "(", _) :: _ => (u.braces, u.parentheses + 1)
      | (.sign ")", _) :: _ => (u.braces, u.parentheses - 1)
      | _ => (u.braces, u.parentheses)
    { tokens := u.tokens.drop 1, braces, parentheses }

/-- A word as complaints name it. -/
def spelled : Token → String
  | .number _ cs => String.ofList cs
  | .text cs => "\"" ++ String.ofList cs ++ "\""
  | .pattern cs => String.ofList cs
  | .name s | .called s | .word s | .builtin s | .sign s => s
  | .ending => "end of line"
  | .finish => "end of file"

/-- Complain about a line. -/
def complain (text : String) : Read α := do
  throw (complaintAt (← peek).2 text)

/-- Refuse the next word. -/
def refuse : Read α := do
  let u ← get
  match ← peek with
  | (.finish, _) =>
    if u.braces ≠ 0 then complain "missing \x7d near end of file"
    else if u.parentheses ≠ 0 then complain "missing ) near end of file"
    else complain "syntax error at or near end of file"
  | (t, line) =>
    let plain := complaintAt line ("syntax error at or near " ++ spelled t)
    let extra (sign : String) : Complaint :=
      complaintAt line s!"extra '{sign}'" ++ complaintAt line "syntax error at or near end of line"
    match t with
    | .sign "\x7d" => throw (if u.braces = 0 then extra "\x7d" else plain)
    | .sign ")" => throw (if u.parentheses = 0 then extra ")" else plain)
    | _ => throw plain

/-- Whether a sign comes next. -/
def isNext (sign : String) : Read Bool := do
  match (← peek).1 with
  | .sign s => return s == sign
  | _ => return false

/-- Pass over a sign if it comes next, and tell whether it did. -/
def accept (sign : String) : Read Bool := do
  if ← isNext sign then
    drop
    return true
  else return false

/-- Pass over a sign that has to come next. -/
def expect (sign : String) : Read Unit := do
  unless ← accept sign do refuse

/-- Whether a word with a meaning of its own comes next. -/
def isWord (word : String) : Read Bool := do
  match (← peek).1 with
  | .word s => return s == word
  | _ => return false

/-- Pass over a word if it comes next, and tell whether it did. -/
def acceptWord (word : String) : Read Bool := do
  if ← isWord word then
    drop
    return true
  else return false

/-- Pass over the ends of lines. -/
def skipLines : Read Unit :=
  modify fun u => { u with tokens := u.tokens.dropWhile fun t => t.1 matches .ending }

/-- Pass over the ends of lines and semicolons. -/
def skipEnds : Read Unit :=
  modify fun u =>
    let isEnd (t : Placed) : Bool := match t.1 with
      | .ending | .sign ";" => true
      | _ => false
    { u with tokens := u.tokens.dropWhile isEnd }

/-- Read a name. -/
def name : Read String := do
  match (← peek).1 with
  | .name s | .called s =>
    drop
    return s
  | _ => refuse

end Read

open Read

/-! ## Expressions -/

/-- The operation before an equals sign in an assignment; `none` for the equals sign alone. -/
def assignment? : Token → Option (Option Operation)
  | .sign "=" => some none
  | .sign "+=" => some (some .sum)
  | .sign "-=" => some (some .difference)
  | .sign "*=" => some (some .product)
  | .sign "/=" => some (some .quotient)
  | .sign "%=" => some (some .remainder)
  | .sign "^=" => some (some .power)
  | _ => none

/-- How the operators of a level put two expressions together. The flag tells whether a larger sign
means that something is printed to a file. -/
def joining? (level : Nat) (inPrint : Bool) (t : Token) : Option (Expr → Expr → Expr) :=
  match level, t with
  | 0, .sign "||" => some .any
  | 1, .sign "&&" => some .both
  | 3, .sign "~" => some (.fits false)
  | 3, .sign "!~" => some (.fits true)
  | 4, .sign "<" => some (.compare .less)
  | 4, .sign "<=" => some (.compare .atMost)
  | 4, .sign "==" => some (.compare .equal)
  | 4, .sign "!=" => some (.compare .different)
  | 4, .sign ">" => if inPrint then none else some (.compare .more)
  | 4, .sign ">=" => some (.compare .atLeast)
  | 6, .sign "+" => some (.compute .sum)
  | 6, .sign "-" => some (.compute .difference)
  | 7, .sign "*" => some (.compute .product)
  | 7, .sign "/" => some (.compute .quotient)
  | 7, .sign "%" => some (.compute .remainder)
  | _, _ => none

/-- Whether an operand can begin with a word that follows another operand. -/
def beginsOperand : Token → Bool
  | .number _ _ | .text _ | .pattern _ | .name _ | .called _ | .builtin _ => true
  | .sign s => ["(", "$", "!", "++", "--"].contains s
  | _ => false

mutual

/-- Read an expression. -/
def readExpr : Nat → Bool → Read Expr
  | 0, _ => refuse
  | bound + 1, inPrint => do
    let condition ← readLevel bound 0 inPrint
    if ← accept "?" then
      skipLines
      let a ← readExpr bound inPrint
      skipLines
      expect ":"
      skipLines
      let b ← readExpr bound inPrint
      return .choose condition a b
    else return condition

/-- Read an expression with the operators of a level and of those that bind closer. -/
def readLevel : Nat → Nat → Bool → Read Expr
  | 0, _, _ => refuse
  | bound + 1, level, inPrint => do
    match level with
    | 5 => do
      let first ← readLevel bound 6 inPrint
      match first, assignment? (← peek).1 with
      | .place p, some op =>
        drop
        skipLines
        return .assign p op (← readExpr bound inPrint)
      | _, _ => readOperands bound first inPrint
    | 8 => do
      if ← accept "!" then return .no (← readLevel bound 8 inPrint)
      else if ← accept "-" then return .signed true (← readLevel bound 8 inPrint)
      else if ← accept "+" then return .signed false (← readLevel bound 8 inPrint)
      else readLevel bound 9 inPrint
    | 9 => do
      let base ← readStepped bound
      let e ← if ← accept "^" then pure (.compute .power base (← readLevel bound 8 inPrint))
        else pure base
      readTaking bound e
    | _ => do
      let first ← readLevel bound (level + 1) inPrint
      readFurther bound level first inPrint

/-- Read what operators of a level add to an expression. -/
def readFurther : Nat → Nat → Expr → Bool → Read Expr
  | 0, _, _, _ => refuse
  | bound + 1, level, first, inPrint => do
    if level = 2 then
      if ← acceptWord "in" then readFurther bound level (.has [first] (← name)) inPrint
      else return first
    else
      match joining? level inPrint (← peek).1 with
      | some join =>
        drop
        if level < 2 then skipLines
        let second ← readLevel bound (level + 1) inPrint
        readFurther bound level (join first second) inPrint
      | none => return first

/-- Read what follows a text and is put after it. -/
def readOperands : Nat → Expr → Bool → Read Expr
  | 0, _, _ => refuse
  | bound + 1, first, inPrint => do
    if beginsOperand (← peek).1 then
      let second ← readLevel bound 6 inPrint
      readOperands bound (.join first second) inPrint
    else return first

/-- Read what is taken from a command. -/
def readTaking : Nat → Expr → Read Expr
  | 0, _ => refuse
  | bound + 1, e => do
    match (← peek).1, ← peekSecond with
    | .sign "|", .word "getline" =>
      drop
      drop
      let target ← readTarget bound
      readTaking bound (.take (.command e) target)
    | _, _ => return e

/-- Read the place that a record is taken into, if there is one. -/
def readTarget : Nat → Read (Option Place)
  | 0 => refuse
  | bound + 1 => do
    let isPlace := match (← peek).1 with
      | .name _ | .sign "$" => true
      | _ => false
    if isPlace then
      match ← readPrimary bound with
      | .place p => return some p
      | _ => refuse
    else return none

/-- Read an operand with the signs after it that change it. -/
def readStepped : Nat → Read Expr
  | 0 => refuse
  | bound + 1 => do
    let e ← readPrimary bound
    match e with
    | .place p =>
      if ← accept "++" then return .step p true false
      else if ← accept "--" then return .step p false false
      else return e
    | _ => return e

/-- Read expressions with commas between them. -/
def readList : Nat → Bool → Read (List Expr)
  | 0, _ => refuse
  | bound + 1, inPrint => do
    let e ← readExpr bound inPrint
    if ← accept "," then
      skipLines
      return e :: (← readList bound inPrint)
    else return [e]

/-- Read arguments after their opening parenthesis. -/
def readArguments : Nat → Read (List Expr)
  | 0 => refuse
  | bound + 1 => do
    if ← accept ")" then return []
    else
      let args ← readList bound false
      expect ")"
      return args

/-- Read an operand. -/
def readPrimary : Nat → Read Expr
  | 0 => refuse
  | bound + 1 => do
    match (← peek).1 with
    | .number x _ =>
      drop
      return .number x
    | .text cs =>
      drop
      return .text cs
    | .pattern cs =>
      drop
      return .pattern cs
    | .name s =>
      drop
      if ← accept "[" then
        let keys ← readList bound false
        expect "]"
        return .place (.item s keys)
      else return .place (.named s)
    | .called s =>
      drop
      expect "("
      return .invoke s (← readArguments bound)
    | .builtin s =>
      drop
      if ← accept "(" then
        let args ← readArguments bound
        let (least, most) := (builtins.lookup s).getD (0, 0)
        if args.length < least || most < args.length then
          complain s!"wrong number of arguments in call to {s}"
        return .builtin s args
      else if s = "length" then return .builtin s []
      else refuse
    | .word "getline" =>
      drop
      let target ← readTarget bound
      if ← accept "<" then return .take (.file (← readStepped bound)) target
      else return .take .input target
    | .sign "$" =>
      drop
      if ← accept "-" then return .place (.field (.signed true (← readPrimary bound)))
      else if ← accept "++" then readStep bound true
      else if ← accept "--" then readStep bound false
      else return .place (.field (← readPrimary bound))
    | .sign "++" =>
      drop
      match ← readPrimary bound with
      | .place p => return .step p true true
      | _ => refuse
    | .sign "--" =>
      drop
      match ← readPrimary bound with
      | .place p => return .step p false true
      | _ => refuse
    | .sign "(" =>
      drop
      let es ← readList bound false
      expect ")"
      match es with
      | [e] => return .group e
      | _ =>
        unless ← acceptWord "in" do refuse
        return .has es (← name)
    | _ => refuse

/-- Read the place of a number for a field that is changed first. -/
def readStep : Nat → Bool → Read Expr
  | 0, _ => refuse
  | bound + 1, isUp => do
    match ← readPrimary bound with
    | .place p => return .place (.field (.step p isUp true))
    | _ => refuse

end

/-! ## Statements -/

/-- Whether a statement can end before a word. -/
def endsStatement : Token → Bool
  | .ending | .finish => true
  | .sign s => s == ";" || s == "\x7d"
  | _ => false

/-- Pass over the end of a statement. -/
def readEnd : Read Unit := do
  match (← peek).1 with
  | .ending | .sign ";" => drop
  | .sign "\x7d" => pure ()
  | _ => refuse

/-- Read what is printed. A list in parentheses is taken as a whole if nothing follows it. -/
def readPrinted (bound : Nat) : Read (List Expr) := do
  let endsList (t : Token) : Bool := match t with
    | .sign s => s == ">" || s == ">>" || s == "|" || endsStatement t
    | _ => endsStatement t
  if endsList (← peek).1 then return []
  else
    let before ← get
    let whole : Read (Option (List Expr)) := do
      if ← accept "(" then
        let es ← readArguments bound
        return if endsList (← peek).1 then some es else none
      else return none
    match (whole.run before) with
    | .ok (some es, after) =>
      set after
      return es
    | _ => readList bound true

/-- Read where something is printed. -/
def readSink (bound : Nat) : Read (Option (Sink × Expr)) := do
  let into (s : Sink) : Read (Option (Sink × Expr)) := do
    return some (s, ← readExpr bound true)
  if ← accept ">" then into .file
  else if ← accept ">>" then into .fileEnd
  else if ← accept "|" then into .command
  else return none

/-- Read a statement that holds no other one. -/
def readSimple (bound : Nat) (s : Surroundings) : Read Statement := do
  let optional : Read (Option Expr) := do
    if endsStatement (← peek).1 then return none else return some (← readExpr bound false)
  match (← peek).1 with
  | .word "print" | .word "printf" =>
    let hasFormat ← isWord "printf"
    drop
    let args ← readPrinted bound
    if hasFormat && args.isEmpty then complain "no arguments in call to printf"
    return .print hasFormat args (← readSink bound)
  | .word "next" =>
    drop
    if !s.inRule then complain "improper use of next"
    return .next
  | .word "nextfile" =>
    drop
    if !s.inRule then complain "improper use of nextfile"
    return .nextFile
  | .word "exit" =>
    drop
    return .exit (← optional)
  | .word "return" =>
    drop
    if !s.inFunction then complain "return outside function body"
    return .give (← optional)
  | .word "break" =>
    drop
    if !s.inLoop then complain "break statement outside of loop"
    return .leave
  | .word "continue" =>
    drop
    if !s.inLoop then complain "continue statement outside of loop"
    return .again
  | .word "delete" =>
    drop
    let array ← name
    if ← accept "[" then
      let keys ← readList bound false
      expect "]"
      return .delete array (some keys)
    else return .delete array none
  | _ => return .expr (← readExpr bound false)

/-- The name and the array of a loop over keys, if one begins after the opening parenthesis. -/
def keysAhead? (tokens : List Placed) : Option (String × String) :=
  match tokens with
  | (.name x, _) :: (.word "in", _) :: (.name a, _) :: (.sign ")", _) :: _ => some (x, a)
  | _ => none

mutual

/-- Read a statement. -/
def readStatement : Nat → Surroundings → Read Statement
  | 0, _ => refuse
  | bound + 1, s => do
    match (← peek).1 with
    | .sign "\x7b" => readBlock bound s
    | .sign ";" =>
      drop
      return .block []
    | .sign "\x7d" => return .block []
    | .word "if" =>
      drop
      expect "("
      let condition ← readExpr bound false
      expect ")"
      skipLines
      let yes ← readStatement bound s
      let before ← get
      skipEnds
      if ← acceptWord "else" then
        skipLines
        return .choose condition yes (some (← readStatement bound s))
      else
        set before
        return .choose condition yes none
    | .word "while" =>
      drop
      expect "("
      let condition ← readExpr bound false
      expect ")"
      if ← accept ";" then return .loop (some condition) (.block []) none
      else
        skipLines
        return .loop (some condition) (← readStatement bound { s with inLoop := true }) none
    | .word "do" =>
      drop
      skipLines
      let body ← readStatement bound { s with inLoop := true }
      skipEnds
      unless ← acceptWord "while" do refuse
      expect "("
      let condition ← readExpr bound false
      expect ")"
      readEnd
      return .loopOnce body condition
    | .word "for" =>
      drop
      expect "("
      match keysAhead? (← get).tokens with
      | some (x, a) =>
        drop
        drop
        drop
        expect ")"
        skipLines
        return .each x a (← readStatement bound { s with inLoop := true })
      | none =>
        let start ← if ← isNext ";" then pure none else pure (some (← readSimple bound s))
        expect ";"
        skipLines
        let condition ← if ← isNext ";" then pure none else pure (some (← readExpr bound false))
        expect ";"
        skipLines
        let step ← if ← isNext ")" then pure none else pure (some (← readSimple bound s))
        expect ")"
        let body ← if ← accept ";" then pure (.block []) else do
          skipLines
          readStatement bound { s with inLoop := true }
        return .block (start.toList ++ [.loop condition body step])
    | _ =>
      let simple ← readSimple bound s
      readEnd
      return simple

/-- Read statements in braces. -/
def readBlock : Nat → Surroundings → Read Statement
  | 0, _ => refuse
  | bound + 1, s => do
    expect "\x7b"
    return .block (← readStatements bound s)

/-- Read statements up to a closing brace. -/
def readStatements : Nat → Surroundings → Read (List Statement)
  | 0, _ => refuse
  | bound + 1, s => do
    skipEnds
    if ← accept "\x7d" then return []
    else
      let first ← readStatement bound s
      return first :: (← readStatements bound s)

end

/-! ## Programs -/

/-- Read the names of arguments up to a closing parenthesis. -/
def readParameters : Nat → Read (List String)
  | 0 => refuse
  | bound + 1 => do
    if ← accept ")" then return []
    else
      let first ← name
      if ← accept "," then
        skipLines
        return first :: (← readParameters bound)
      else
        expect ")"
        return [first]

/-- Read a function after the word for it. -/
def readFunction (bound : Nat) (known : List String) : Read (String × Function) := do
  let function ← name
  if known.contains function then complain s!"redefinition of {function}"
  expect "("
  let parameters ← readParameters bound
  match parameters.find? fun p => 1 < parameters.count p with
  | some p => complain s!"{p} is duplicated in argument list"
  | none => pure ()
  skipLines
  let body ← readBlock bound { inFunction := true }
  return (function, { parameters, body })

/-- Read a rule. -/
def readRule (bound : Nat) : Read Rule := do
  let action (s : Surroundings) : Read Statement := readBlock bound s
  if ← acceptWord "BEGIN" then return { condition := .first, action := some (← action ⟨false, false, false⟩) }
  else if ← acceptWord "END" then
    return { condition := .last, action := some (← action ⟨false, false, false⟩) }
  else if ← isNext "\x7b" then return { condition := .always, action := some (← action {}) }
  else
    let a ← readExpr bound false
    let condition ← if ← accept "," then do
        skipLines
        pure (Condition.between a (← readExpr bound false))
      else pure (Condition.when a)
    if ← isNext "\x7b" then return { condition, action := some (← action {}) }
    else
      match (← peek).1 with
      | .ending | .sign ";" | .finish => return { condition, action := none }
      | _ => refuse

/-- Read the parts of a program, after those that were read before. -/
def readParts : Nat → Program → Read Program
  | 0, _ => refuse
  | bound + 1, p => do
    skipEnds
    match (← peek).1 with
    | .finish => return p
    | .word "function" =>
      drop
      let f ← readFunction bound (p.functions.map Prod.fst)
      readParts bound { p with functions := p.functions ++ [f] }
    | _ =>
      let r ← readRule bound
      readParts bound { p with rules := p.rules ++ [r] }

/-- The program that a text writes. -/
def Program.ofText (cs : List Char) : Except Complaint Program := do
  let tokens ← tokens cs
  let (p, _) ← (readParts (16 * tokens.length + 64) {}).run { tokens }
  let isKnown (t : Placed) : Bool := match t.1 with
    | .called s => (p.functions.lookup s).isSome
    | _ => true
  match tokens.find? fun t => !isKnown t with
  | some (.called s, _) =>
    .error (complaintAt (tokens.getLast?.elim 1 Prod.snd) s!"function {s} never defined")
  | _ => return p

end Confine.Tool.Awk
