import Confine.Shell.Token

set_option autoImplicit false

/-! # Reading commands

Tokens are put together to commands. Words like `if` and `done` mean something only where a
command starts and only without quotes. Each reader takes a bound on its steps, for which a
small multiple of the number of tokens is enough, and gives what it read and the tokens that
are left. -/

namespace Confine.Shell

/-- Tokens with their lines. -/
abbrev Tokens := List (Nat × Token)

/-- A fault and the line on which it is found. -/
abbrev ReadFault := Nat × SyntaxFault

/-- The characters of a word without quotes and expansions. -/
def literal? : Word → Option (List Char)
  | [] => some []
  | .text false cs :: rest => (literal? rest).map (cs ++ ·)
  | _ => none

/-- The word that comes next, if it has neither quotes nor expansions. -/
def nextLiteral? : Tokens → Option String
  | (_, .word w) :: _ => (literal? w).map String.ofList
  | _ => none

/-- The words that have a meaning where a command starts. -/
def keywords : List String :=
  ["!", "\x7b", "\x7d", "case", "do", "done", "elif", "else", "esac", "fi", "for", "if", "in",
    "then", "until", "while"]

/-- The words among these with which no command starts. -/
def notCommands : List String :=
  ["!", "\x7d", "do", "done", "elif", "else", "esac", "fi", "in", "then"]

/-- The operators of redirections. -/
def redirectionOperators : List String :=
  [">", ">|", ">>", "<", ">&", "<&", "<>", "<<", "<<-"]

/-- The text by which a token is named in a message. The flag tells whether keywords count. -/
def tokenName (special : Bool) : Token → String
  | .word w =>
    match (literal? w).map String.ofList with
    | some text => if special ∧ text ∈ keywords then s!"\"{text}\"" else "word"
    | none => "word"
  | .descriptor _ => "redirection"
  | .operator o => if o ∈ redirectionOperators then "redirection" else s!"\"{o}\""
  | .document _ => "word"
  | .newline => "newline"
  | .finish _ => "end of file"

/-- The line of the next token. -/
def lineOf (ts : Tokens) : Nat :=
  (ts.head?.map Prod.fst).getD 1

/-- The fault of a token that stands where it must not, maybe instead of another one. -/
def faultOf (special : Bool) (expecting : Option String) (ts : Tokens) : ReadFault :=
  match ts with
  | (line, .finish (some fault)) :: _ => (line, fault)
  | (line, t) :: _ => (line, .unexpected (tokenName special t) expecting)
  | [] => (1, .unexpected "end of file" expecting)

/-- Give up at a token where a command might start. -/
def misplaced {α : Type} (expecting : Option String) (ts : Tokens) : Except ReadFault α :=
  .error (faultOf true expecting ts)

/-- Give up at a token inside a command. -/
def misplacedInside {α : Type} (expecting : Option String) (ts : Tokens) : Except ReadFault α :=
  .error (faultOf false expecting ts)

/-- Give up with a fault of its own, unless the tokens cannot be read here at all. -/
def refuse {α : Type} (fault : SyntaxFault) (ts : Tokens) : Except ReadFault α :=
  match ts with
  | (line, .finish (some fault)) :: _ => .error (line, fault)
  | _ => .error (lineOf ts, fault)

/-- The tokens after newlines. -/
def skipNewlines : Tokens → Tokens
  | (_, .newline) :: rest => skipNewlines rest
  | ts => ts

/-- Take an expected keyword. -/
def takeWord (expected : String) (ts : Tokens) : Except ReadFault Tokens :=
  if nextLiteral? ts = some expected then .ok (ts.drop 1)
  else misplaced (some s!"\"{expected}\"") ts

/-- The words that end the commands before them. -/
def closingWords : List String :=
  ["then", "else", "elif", "fi", "do", "done", "esac", "\x7d"]

/-- Whether the tokens are at their end. -/
def atFinish : Tokens → Bool
  | [] | (_, .finish none) :: _ => true
  | _ => false

/-- Whether commands end here. -/
def atClosing (ts : Tokens) : Bool :=
  match ts with
  | (_, .operator ")") :: _ | (_, .operator ";;") :: _ => true
  | _ => atFinish ts || (nextLiteral? ts).any closingWords.contains

/-- The name and the first part of the value, if a word is an assignment. -/
def assignment? : Word → Option (String × Word)
  | .text false cs :: rest =>
    let name := cs.takeWhile inVariable
    match name, cs.dropWhile inVariable with
    | c :: _, '=' :: value =>
      if startsVariable c then some (String.ofList name, .text false value :: rest) else none
    | _, _ => none
  | _ => none

/-- Read a redirection, whose descriptor may have been read before. -/
def readRedirection (descriptor : Option Nat) (ts : Tokens) :
    Except ReadFault (Redirection × Tokens) :=
  match ts with
  | (_, .operator _) :: (_, .document text) :: rest =>
    .ok (⟨descriptor.getD 0, .document, text⟩, rest)
  | (_, .operator o) :: (_, .word target) :: rest =>
    let make (d : Nat) (how : Direction) : Except ReadFault (Redirection × Tokens) :=
      .ok (⟨descriptor.getD d, how, target⟩, rest)
    match o with
    | ">>" => make 1 .append
    | "<" => make 0 .read
    | "<>" => make 0 .both
    | ">&" => make 1 .copy
    | "<&" => make 0 .copy
    | ">|" => make 1 .overwrite
    | _ => make 1 .write
  | _ => misplacedInside none (ts.drop 1)

/-- Whether a redirection starts here. -/
def atRedirection : Tokens → Bool
  | (_, .operator o) :: _ => redirectionOperators.contains o
  | (_, .descriptor _) :: _ => true
  | _ => false

/-- Read redirections as long as there are any. -/
def readRedirections : Nat → Tokens → Except ReadFault (List Redirection × Tokens)
  | 0, ts => .ok ([], ts)
  | steps + 1, ts =>
    if atRedirection ts then do
      let (r, ts) ← match ts with
        | (_, .descriptor n) :: rest => readRedirection (some n) rest
        | _ => readRedirection none ts
      let (rs, ts) ← readRedirections steps ts
      return (r :: rs, ts)
    else .ok ([], ts)

/-- Read the assignments, words and redirections of a simple command. -/
def readSimple : Nat → Tokens →
    Except ReadFault ((List (String × Word) × List Word × List Redirection) × Tokens)
  | 0, ts => .ok (([], [], []), ts)
  | steps + 1, ts =>
    if atRedirection ts then do
      let (r, ts) ← match ts with
        | (_, .descriptor n) :: rest => readRedirection (some n) rest
        | _ => readRedirection none ts
      let ((assignments, words, rs), ts) ← readSimple steps ts
      return ((assignments, words, r :: rs), ts)
    else
      match ts with
      | (_, .word w) :: rest => do
        match assignment? w with
        | some a =>
          let ((assignments, words, rs), ts) ← readSimple steps rest
          return ((a :: assignments, words, rs), ts)
        | none =>
          let ((words, rs), ts) ← readArguments steps rest
          return (([], w :: words, rs), ts)
      | _ => .ok (([], [], []), ts)
where
  /-- Read the words after the first, among which an assignment is a word like any other. -/
  readArguments : Nat → Tokens → Except ReadFault ((List Word × List Redirection) × Tokens)
    | 0, ts => .ok (([], []), ts)
    | steps + 1, ts =>
      if atRedirection ts then do
        let (r, ts) ← match ts with
          | (_, .descriptor n) :: rest => readRedirection (some n) rest
          | _ => readRedirection none ts
        let ((words, rs), ts) ← readArguments steps ts
        return ((words, r :: rs), ts)
      else
        match ts with
        | (_, .word w) :: rest => do
          let ((words, rs), ts) ← readArguments steps rest
          return ((w :: words, rs), ts)
        | _ => .ok (([], []), ts)

/-- Read words up to the end of a line. -/
def readWords : Tokens → List Word × Tokens
  | (_, .word w) :: rest =>
    let (words, ts) := readWords rest
    (w :: words, ts)
  | ts => ([], ts)

/-- Read the patterns of an arm up to its parenthesis. What is not a word is a pattern for the
empty text. -/
def readPatterns : Nat → Tokens → Except ReadFault (List Word × Tokens)
  | 0, ts => misplacedInside (some "\")\"") ts
  | steps + 1, ts =>
    let pattern : Word := match ts with
      | (_, .word w) :: _ => w
      | _ => []
    let after := if ts.length ≤ 1 then ts else ts.drop 1
    match after with
    | (_, .operator ")") :: rest => .ok ([pattern], rest)
    | (_, .operator "|") :: rest => do
      let (patterns, ts) ← readPatterns steps rest
      return (pattern :: patterns, ts)
    | _ => misplacedInside (some "\")\"") after

/-- Read the name and the words of a loop after its first word. -/
def readHead (ts : Tokens) : Except ReadFault (String × Option (List Word) × Tokens) :=
  match nextLiteral? ts with
  | none => refuse .badLoopVariable ts
  | some name =>
    if !isName name then refuse .badLoopVariable ts
    else
      let after := skipNewlines (ts.drop 1)
      if nextLiteral? after = some "in" then
        let (words, ts) := readWords (after.drop 1)
        match ts with
        | (_, .operator ";") :: rest | (_, .newline) :: rest => .ok (name, some words, rest)
        | _ => misplaced none ts
      else
        match after with
        | (_, .operator ";") :: rest => .ok (name, none, rest)
        | _ => .ok (name, none, after)

mutual

/-- Read commands up to where they end, at once if there need not be any. -/
def readList : Nat → Bool → Tokens → Except ReadFault (List Command × Tokens)
  | 0, _, ts => misplaced none ts
  | steps + 1, mayBeEmpty, ts => do
    let ts := skipNewlines ts
    if atFinish ts ∨ (mayBeEmpty ∧ atClosing ts) then return ([], ts)
    let (c, ts) ← readLogic steps ts
    match ts with
    | (_, .operator "&") :: ts =>
      let (cs, ts) ← readList steps true ts
      return (.background c :: cs, ts)
    | (_, .operator ";") :: ts | (_, .newline) :: ts =>
      let (cs, ts) ← readList steps true ts
      return (c :: cs, ts)
    | _ => return ([c], ts)

/-- Read pipelines that depend on one another. -/
def readLogic : Nat → Tokens → Except ReadFault (Command × Tokens)
  | 0, ts => misplaced none ts
  | steps + 1, ts => do
    let (c, ts) ← readPipeline steps ts
    readLogicTail steps c ts

/-- Read what depends on the command before. -/
def readLogicTail : Nat → Command → Tokens → Except ReadFault (Command × Tokens)
  | 0, _, ts => misplaced none ts
  | steps + 1, c, ts =>
    match ts with
    | (_, .operator "&&") :: ts => do
      let (d, ts) ← readPipeline steps (skipNewlines ts)
      readLogicTail steps (.both c d) ts
    | (_, .operator "||") :: ts => do
      let (d, ts) ← readPipeline steps (skipNewlines ts)
      readLogicTail steps (.either c d) ts
    | _ => .ok (c, ts)

/-- Read commands with bars between them, which may be negated once. -/
def readPipeline : Nat → Tokens → Except ReadFault (Command × Tokens)
  | 0, ts => misplaced none ts
  | steps + 1, ts => do
    let negated := nextLiteral? ts = some "!"
    let (c, ts) ← readCommand steps (if negated then ts.drop 1 else ts)
    let (cs, ts) ← readStages steps ts
    let pipeline := if cs.isEmpty then c else .pipeline (c :: cs)
    return (if negated then .negate pipeline else pipeline, ts)

/-- Read the commands after a bar. -/
def readStages : Nat → Tokens → Except ReadFault (List Command × Tokens)
  | 0, ts => misplaced none ts
  | steps + 1, ts =>
    match ts with
    | (_, .operator "|") :: ts => do
      let (c, ts) ← readCommand steps (skipNewlines ts)
      let (cs, ts) ← readStages steps ts
      return (c :: cs, ts)
    | _ => .ok ([], ts)

/-- Read one command. -/
def readCommand : Nat → Tokens → Except ReadFault (Command × Tokens)
  | 0, ts => misplaced none ts
  | steps + 1, ts => do
    let line := lineOf ts
    let (c, ts) ←
      match ts, nextLiteral? ts with
      | (_, .operator "(") :: rest, _ => do
        let (body, ts) ← readList steps false rest
        match ts with
        | (_, .operator ")") :: ts => pure (some (Command.subshell body), ts)
        | _ => misplaced (some "\")\"") ts
      | _, some "\x7b" => do
        let (body, ts) ← readList steps false (ts.drop 1)
        pure (some (.group body), ← takeWord "\x7d" ts)
      | _, some "if" => do
        let (clauses, otherwise, ts) ← readClauses steps (ts.drop 1)
        pure (some (.conditional clauses otherwise), ts)
      | _, some "while" => do
        let (condition, body, ts) ← readLoop steps (ts.drop 1)
        pure (some (.loop false condition body), ts)
      | _, some "until" => do
        let (condition, body, ts) ← readLoop steps (ts.drop 1)
        pure (some (.loop true condition body), ts)
      | _, some "for" => do
        let (name, words, ts) ← readHead (ts.drop 1)
        let (body, ts) ← readList steps false (← takeWord "do" (skipNewlines ts))
        pure (some (.each line name words body), ← takeWord "done" ts)
      | _, some "case" =>
        match ts.drop 1 with
        | (_, .word subject) :: rest => do
          let (arms, ts) ← readArms steps (← takeWord "in" (skipNewlines rest))
          pure (some (.choose line subject arms), ts)
        | rest => misplacedInside (some "word") rest
      | (_, .word w) :: (_, .operator "(") :: rest, name => do
        if name.any notCommands.contains then misplaced none ts
        else if (assignment? w).isSome then misplaced none (ts.drop 1)
        else
          match rest with
          | (start, .operator ")") :: rest =>
            match name.filter fun n => isName n && !specialCommands.contains n with
            | some name => do
              let (body, ts) ← readCommand steps (skipNewlines rest)
              pure (some (.define start name body), ts)
            | none => refuse .badFunctionName ts
          | _ => misplacedInside (some "\")\"") rest
      | _, name => if name.any notCommands.contains then misplaced none ts else pure (none, ts)
    match c with
    | none =>
      let ((assignments, words, redirections), after) ← readSimple (ts.length + 1) ts
      if assignments.isEmpty ∧ words.isEmpty ∧ redirections.isEmpty then misplaced none after
      else return (.simple line assignments words redirections, after)
    | some c =>
      let (redirections, ts) ← readRedirections (ts.length + 1) ts
      return (if redirections.isEmpty then c else .redirected line c redirections, ts)

/-- Read the clauses of a conditional after its first word. -/
def readClauses : Nat → Tokens →
    Except ReadFault (List (List Command × List Command) × List Command × Tokens)
  | 0, ts => misplaced none ts
  | steps + 1, ts => do
    let (condition, ts) ← readList steps false ts
    let (body, ts) ← readList steps false (← takeWord "then" ts)
    match nextLiteral? ts with
    | some "elif" =>
      let (clauses, otherwise, ts) ← readClauses steps (ts.drop 1)
      return ((condition, body) :: clauses, otherwise, ts)
    | some "else" =>
      let (otherwise, ts) ← readList steps false (ts.drop 1)
      return ([(condition, body)], otherwise, ← takeWord "fi" ts)
    | _ => return ([(condition, body)], [], ← takeWord "fi" ts)

/-- Read a loop after its first word. -/
def readLoop : Nat → Tokens → Except ReadFault (List Command × List Command × Tokens)
  | 0, ts => misplaced none ts
  | steps + 1, ts => do
    let (condition, ts) ← readList steps false ts
    let (body, ts) ← readList steps false (← takeWord "do" ts)
    return (condition, body, ← takeWord "done" ts)

/-- Read the arms of a choice up to its last word. -/
def readArms : Nat → Tokens → Except ReadFault ((List (List Word × List Command)) × Tokens)
  | 0, ts => misplaced none ts
  | steps + 1, ts => do
    let ts := skipNewlines ts
    if nextLiteral? ts = some "esac" then return ([], ts.drop 1)
    let ts := match ts with
      | (_, .operator "(") :: rest => rest
      | _ => ts
    let (patterns, ts) ← readPatterns (ts.length + 1) ts
    let (body, ts) ← readList steps true ts
    let ts := skipNewlines ts
    match ts with
    | (_, .operator ";;") :: ts =>
      let (arms, ts) ← readArms steps ts
      return ((patterns, body) :: arms, ts)
    | _ =>
      if nextLiteral? ts = some "esac" then return ([(patterns, body)], ts.drop 1)
      else misplaced (some "\";;\"") ts

end

/-! ## Whole commands -/

/-- Read the commands up to the end of a line. -/
def readLine : Nat → Tokens → Except ReadFault (List Command × Tokens)
  | 0, ts => misplaced none ts
  | steps + 1, ts => do
    let (c, ts) ← readLogic (10 * ts.length + 10) ts
    let rest (c : Command) (ts : Tokens) : Except ReadFault (List Command × Tokens) :=
      match ts with
      | (_, .newline) :: ts => .ok ([c], ts)
      | _ =>
        if atFinish ts then .ok ([c], ts)
        else do
          let (cs, ts) ← readLine steps ts
          return (c :: cs, ts)
    match ts with
    | (_, .operator "&") :: ts => rest (.background c) ts
    | (_, .operator ";") :: ts => rest c ts
    | (_, .newline) :: ts => return ([c], ts)
    | _ => if atFinish ts then return ([c], ts) else misplaced none ts

/-- Read lines up to the first that cannot be read. -/
def readLines : Nat → Tokens → List (List Command) × Option ReadFault
  | 0, _ => ([], none)
  | steps + 1, ts =>
    let ts := skipNewlines ts
    if atFinish ts then ([], none)
    else
      match readLine (ts.length + 1) ts with
      | .error fault => ([], some fault)
      | .ok (commands, ts) =>
        let (more, fault) := readLines steps ts
        (commands :: more, fault)

/-- What is read of a text: its lines, and the fault of the first that cannot be read. -/
abbrev Script := List (List Command) × Option ReadFault

mutual

/-- The commands inside the parts of a word: whether they stand in parentheses, their lines and
their texts. -/
def commandsInside : Word → List (Bool × Nat × List Char)
  | [] => []
  | part :: rest => commandsInPart part ++ commandsInside rest

/-- The commands inside a part of a word. -/
def commandsInPart : Part → List (Bool × Nat × List Char)
  | .output _ inParentheses line command => [(inParentheses, line, command)]
  | .substitute _ _ _ _ word | .trim _ _ _ _ word | .arithmetic _ word => commandsInside word
  | _ => []

end

/-- The fault of a command inside a word, as the word shows it: the command in parentheses ends
with the closing one. -/
def faultInside (inParentheses : Bool) : SyntaxFault → SyntaxFault
  | .unexpected "end of file" expecting =>
    .unexpected (if inParentheses then "\")\"" else "end of file") expecting
  | fault => fault

/-- The tokens up to the first word that has a command in it which cannot be read. -/
def checkWords (read : Nat → List Char → Script) : Tokens → Tokens
  | [] => []
  | (line, t) :: rest =>
    let word := match t with
      | .word w | .document w => w
      | _ => []
    let fault? := (commandsInside word).findSome? fun (inParentheses, line, command) =>
      (read line command).2.map fun (line, fault) => (line, faultInside inParentheses fault)
    match fault? with
    | some (line, fault) => [(line, .finish (some fault))]
    | none => (line, t) :: checkWords read rest

/-- Read a text as commands with commands inside them, down to a depth. -/
def parseWithin : Nat → Nat → List Char → Script
  | 0, _, _ => ([], none)
  | depth + 1, line, cs =>
    let ts := checkWords (parseWithin depth) (tokens line cs)
    readLines ts.length ts

/-- Read a text as commands, line by line: each line that goes on over several counts as one. The
first line has the given number. After a line that cannot be read nothing is read any more, but
the lines before it are commands even so. -/
def parse (line : Nat) (cs : List Char) : Script :=
  parseWithin (cs.length + 1) line cs

end Confine.Shell
