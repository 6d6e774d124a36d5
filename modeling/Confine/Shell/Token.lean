import Confine.Shell.Syntax

set_option autoImplicit false

/-! # Tokens of commands

A command is cut into words, operators and newlines. Words are read with their quoting: inside
single quotes everything stands for itself, inside double quotes expansions are made, and a
backslash takes the next character as it is. A text that is given in the command itself stands on
the lines after the one that announces it. -/

namespace Confine.Shell

/-- Why a command cannot be read. -/
inductive SyntaxFault where
  /-- A quote is not closed. -/
  | unterminatedQuote
  /-- A backquote is not closed. -/
  | openBackquote
  /-- Braces or parentheses are not closed. -/
  | missing (closing : String)
  /-- A token stands where it must not, or instead of another one. -/
  | unexpected (found : String) (expecting : Option String)
  /-- A loop has no name for its values. -/
  | badLoopVariable
  /-- A function has no good name. -/
  | badFunctionName
  deriving DecidableEq, Repr

/-- The wording of a fault. -/
def SyntaxFault.message : SyntaxFault → String
  | .unterminatedQuote => "Syntax error: Unterminated quoted string"
  | .openBackquote => "Syntax error: EOF in backquote substitution"
  | .missing closing => s!"Syntax error: Missing '{closing}'"
  | .unexpected found none => s!"Syntax error: {found} unexpected"
  | .unexpected found (some other) => s!"Syntax error: {found} unexpected (expecting {other})"
  | .badLoopVariable => "Syntax error: Bad for loop variable"
  | .badFunctionName => "Syntax error: Bad function name"

/-- A piece of a command. -/
inductive Token where
  /-- A word. -/
  | word (w : Word)
  /-- The number of a descriptor in front of a redirection. -/
  | descriptor (n : Nat)
  /-- An operator. -/
  | operator (s : String)
  /-- A text from the lines after this one. -/
  | document (text : Word)
  /-- The end of a line. -/
  | newline
  /-- The end of the command, or where it cannot be read any further. -/
  | finish (fault : Option SyntaxFault)
  deriving Inhabited

/-! ## Characters -/

/-- Whether a character can start the name of a variable. -/
def startsVariable (c : Char) : Bool :=
  c.isAlpha || c == '_'

/-- Whether a character can be part of the name of a variable. -/
def inVariable (c : Char) : Bool :=
  c.isAlphanum || c == '_'

/-- Whether a text can be the name of a variable or a function. -/
def isName (text : String) : Bool :=
  text.toList.head?.any startsVariable && text.toList.all inVariable

/-- Whether a character is the whole name of a parameter. -/
def isSpecialParameter (c : Char) : Bool :=
  c.isDigit || c == '?' || c == '$' || c == '#' || c == '@' || c == '*' || c == '!' || c == '-'

/-- Whether a character ends a word. -/
def endsWord (c : Char) : Bool :=
  c == ' ' || c == '\t' || c == '\n' || c == ';' || c == '&' || c == '|' || c == '<' ||
    c == '>' || c == '(' || c == ')'

/-! ## Texts from the lines below -/

/-- The announcement of a text that stands on the lines below. -/
structure Announcement where
  /-- The line after the text. -/
  delimiter : List Char
  /-- Whether tabs at the start of lines do not belong to the text. -/
  stripsTabs : Bool
  /-- Whether the text stands for itself. -/
  isLiteral : Bool

/-- The delimiter that a word writes, and whether any of it is quoted. -/
def delimiterOf : List Char → List Char × Bool
  | [] => ([], false)
  | '\\' :: c :: rest => (c :: (delimiterOf rest).1, true)
  | c :: rest =>
    let (cs, quoted) := delimiterOf rest
    if c = '\x27' ∨ c = '"' then (cs, true) else (c :: cs, quoted)

/-- The first line of a text with its end, and what follows it. -/
def cutLine (cs : List Char) : List Char × List Char :=
  let line := cs.takeWhile (· ≠ '\n')
  (line ++ (cs.drop line.length).take 1, cs.drop (line.length + 1))

/-- Whether a line goes on with the next one, since its end is hidden by a backslash. -/
def goesOnBelow (line : List Char) : Bool :=
  let slashes := ((line.reverse.drop 1).takeWhile (· == '\\')).length
  line.getLast? == some '\n' && slashes % 2 == 1

/-- Take an announced text off the lines below, up to its delimiter. The flag tells whether the
last line goes on with this one. -/
def takeDocument (a : Announcement) : Nat → Bool → List Char → List Char × List Char
  | 0, _, cs => ([], cs)
  | _, _, [] => ([], [])
  | steps + 1, goesOn, c :: rest =>
    let (line, after) := cutLine (c :: rest)
    let line := if a.stripsTabs then line.dropWhile (· == '\t') else line
    let isEnd := !goesOn && (line == a.delimiter || line == a.delimiter ++ ['\n'])
    if isEnd then ([], after)
    else
      let (text, after) := takeDocument a steps (!a.isLiteral && goesOnBelow line) after
      (line ++ text, after)

/-! ## Where commands inside words end -/

/-- What a scan for the end of a command is inside of. -/
inductive Enclosure where
  /-- Parentheses around commands. The first flag tells whether a command can start here, the
  second whether the last character has ended a word; the number is that of the choices that are
  open. -/
  | commands (mayStart afterWord : Bool) (choices : Nat)
  /-- Parentheses in an expression. -/
  | expression
  /-- The braces of a parameter, inside double quotes or not. -/
  | braces (quoted : Bool)
  /-- Single quotes. -/
  | single
  /-- Double quotes. -/
  | double
  /-- Backquotes. -/
  | backquotes
  deriving DecidableEq

/-- The words after which a command can start. -/
def leadingWords : List String :=
  ["if", "then", "else", "elif", "do", "while", "until", "!", "\x7b"]

/-- What a word in front of more commands makes of the parentheses around. -/
def afterLeadingWord (mayStart : Bool) (choices : Nat) (word : String) : Enclosure :=
  if !mayStart then .commands false false choices
  else if word = "case" then .commands false false (choices + 1)
  else if word = "esac" then .commands false false (choices - 1)
  else .commands (leadingWords.contains word) false choices

/-- The fault of an end inside an enclosure. -/
def Enclosure.fault : Enclosure → SyntaxFault
  | .commands _ _ _ => .unexpected "end of file" (some "\")\"")
  | .expression => .missing "))"
  | .braces _ => .missing "\x7d"
  | .single | .double => .unterminatedQuote
  | .backquotes => .openBackquote

/-- A text up to where all enclosures around it end, and what follows. -/
abbrev Extent := Except SyntaxFault (List Char × List Char)

/-- The text up to the character that ends the last enclosure, with that character, and what
follows it. Texts from the lines below that were announced inside are part of it. -/
def extent : Nat → List Enclosure → List Announcement → List Char → Extent
  | 0, _, _, _ => .error .unterminatedQuote
  | _, [], _, cs => .ok ([], cs)
  | _, e :: _, _, [] => .error e.fault
  | steps + 1, e :: around, docs, c :: rest =>
    let take (n : Nat) (stack : List Enclosure) (docs : List Announcement) : Extent := do
      let (inside, after) ← extent steps stack docs ((c :: rest).drop n)
      .ok ((c :: rest).take n ++ inside, after)
    let opening (stack : List Enclosure) : Option Extent :=
      if c = '$' ∧ rest.head? = some '(' then
        if rest[1]? = some '(' then some (take 3 (.expression :: .expression :: stack) docs)
        else some (take 2 (.commands true true 0 :: stack) docs)
      else if c = '$' ∧ rest.head? = some '\x7b' then
        let inQuotes := e == .double || e == .braces true
        some (take 2 (.braces inQuotes :: stack) docs)
      else if c = '\x60' then some (take 1 (.backquotes :: stack) docs)
      else none
    match e with
    | .single => take 1 (if c = '\x27' then around else e :: around) docs
    | .backquotes =>
      if c = '\\' then take 2 (e :: around) docs
      else take 1 (if c = '\x60' then around else e :: around) docs
    | .double =>
      if c = '\\' then take 2 (e :: around) docs
      else if c = '"' then take 1 around docs
      else (opening (e :: around)).getD (take 1 (e :: around) docs)
    | .braces quoted =>
      if c = '\\' then take 2 (e :: around) docs
      else if c = '\x7d' then take 1 around docs
      else if c = '\x27' ∧ !quoted then take 1 (.single :: e :: around) docs
      else if c = '"' ∧ !quoted then take 1 (.double :: e :: around) docs
      else (opening (e :: around)).getD (take 1 (e :: around) docs)
    | .expression =>
      if c = '\\' then take 2 (e :: around) docs
      else if c = '(' then take 1 (.expression :: e :: around) docs
      else if c = ')' then take 1 around docs
      else (opening (e :: around)).getD (take 1 (e :: around) docs)
    | .commands mayStart afterWord choices =>
      let inWord := .commands false false choices :: around
      if c = '\n' then
        let (text, after) := docs.foldl
          (fun (text, cs) a =>
            let (_, after) := takeDocument a (cs.length + 1) false cs
            (text ++ cs.take (cs.length - after.length), after)) (([] : List Char), rest)
        do
          let (inside, rest) ← extent steps (.commands true true choices :: around) [] after
          .ok (c :: text ++ inside, rest)
      else if c = '\\' then take 2 inWord docs
      else if c = '\x27' then take 1 (.single :: inWord) docs
      else if c = '"' then take 1 (.double :: inWord) docs
      else if c = ' ' ∨ c = '\t' then take 1 (.commands mayStart true choices :: around) docs
      else if c = '#' ∧ afterWord then
        take ((c :: rest).takeWhile (· ≠ '\n')).length (e :: around) docs
      else if c = '(' then
        take 1 (.commands true true 0 :: .commands true true choices :: around) docs
      else if c = ')' then
        if choices = 0 then take 1 around docs
        else take 1 (.commands true true choices :: around) docs
      else if c = ';' ∨ c = '&' ∨ c = '|' then take 1 (.commands true true choices :: around) docs
      else if c = '<' ∧ rest.head? = some '<' then
        let strips := rest[1]? == some '-'
        let skipped := if strips then 3 else 2
        let blanks := ((c :: rest).drop skipped).takeWhile fun d => d == ' ' || d == '\t'
        let word := ((c :: rest).drop (skipped + blanks.length)).takeWhile (!endsWord ·)
        let (delimiter, isLiteral) := delimiterOf word
        take (skipped + blanks.length + word.length) inWord
          (docs ++ [⟨delimiter, strips, isLiteral⟩])
      else if c = '<' ∨ c = '>' then take 1 (.commands mayStart true choices :: around) docs
      else
        match opening inWord with
        | some found => found
        | none =>
          let plain (d : Char) : Bool :=
            !endsWord d && d ≠ '\x27' && d ≠ '"' && d ≠ '\\' && d ≠ '$' && d ≠ '\x60'
          let word := (c :: rest).takeWhile plain
          let whole := afterWord && ((rest.drop (word.length - 1)).head?.all endsWord)
          let next := if whole then afterLeadingWord mayStart choices (String.ofList word)
            else .commands false false choices
          take (max 1 word.length) (next :: around) docs

/-- The text inside an enclosure that has just begun, and what follows its end. -/
def inside (e : List Enclosure) (cs : List Char) : Extent := do
  let (text, after) ← extent (cs.length + 1) e [] cs
  .ok (text.dropLast, after)

/-- The text up to the backquote that closes it, where a backslash hides a backquote, a dollar
sign or itself, and inside double quotes one of these as well. -/
def untilBackquote (quoted : Bool) : List Char → Option (List Char × List Char)
  | [] => none
  | '\x60' :: rest => some ([], rest)
  | '\\' :: c :: rest =>
    (untilBackquote quoted rest).map fun (inside, after) =>
      if c = '\x60' ∨ c = '$' ∨ c = '\\' ∨ (quoted ∧ c = '"') then (c :: inside, after)
      else ('\\' :: c :: inside, after)
  | c :: rest => (untilBackquote quoted rest).map fun (inside, after) => (c :: inside, after)

/-- The text up to a single quote. -/
def untilQuote : List Char → Option (List Char × List Char)
  | [] => none
  | '\x27' :: rest => some ([], rest)
  | c :: rest => (untilQuote rest).map fun (inside, after) => (c :: inside, after)

/-! ## Words -/

/-- Where parts of a word stand, which decides what has a meaning and where they end. -/
inductive Surrounding where
  /-- In a token, up to a character that ends words. -/
  | bare
  /-- In double quotes, up to the closing one. -/
  | double
  /-- In the braces of a parameter, which may be quoted, up to the closing one. -/
  | braces (quoted : Bool)
  /-- In a text of its own, up to its end. -/
  | document
  deriving DecidableEq

/-- Whether parts count as quoted. -/
def Surrounding.quotes : Surrounding → Bool
  | .bare => false
  | .double | .document => true
  | .braces quoted => quoted

/-- Whether a backslash hides a character. Where not everything is quoted by one, the backslash
stands for itself before anything else. -/
def Surrounding.hides : Surrounding → Char → Bool
  | .bare, _ | .braces false, _ => true
  | s, c =>
    c == '$' || c == '\x60' || c == '\\' || c == '\n' || (c == '"' && s != .document) ||
      (c == '\x7d' && s == .braces true)

/-- The readers of words take the line on which the word starts, since commands inside parentheses
count their lines from there. Those inside backquotes count from one. -/
abbrev PartReading := Except SyntaxFault (Part × List Char)

/-- What is done about a variable after its name, by the sign for it. -/
def fallback? : Char → Option Fallback
  | '-' => some .default
  | '=' => some .assign
  | '+' => some .alternative
  | '?' => some .complain
  | _ => none

mutual

/-- Read parts up to the end of what is around them, and take that end away unless it only ends a
token. -/
def readParts (line : Nat) : Nat → Surrounding → List Char →
    Except SyntaxFault (Word × List Char)
  | 0, _, _ => .error .unterminatedQuote
  | _, .bare, [] | _, .document, [] => .ok ([], [])
  | _, .double, [] => .error .unterminatedQuote
  | _, .braces _, [] => .error (.missing "\x7d")
  | steps + 1, s, c :: rest =>
    if s = .bare ∧ endsWord c then .ok ([], c :: rest)
    else if s = .double ∧ c = '"' then .ok ([.text true []], rest)
    else if (s = .braces true ∨ s = .braces false) ∧ c = '\x7d' then .ok ([], rest)
    else do
      let (parts, after) ←
        if c = '\\' then
          match rest with
          | '\n' :: after => pure ([], after)
          | d :: after =>
            pure ([Part.text true (if s.hides d then [d] else ['\\', d])], after)
          | [] => pure ([.text true ['\\']], [])
        else if c = '\x27' ∧ !s.quotes then
          match untilQuote rest with
          | some (inside, after) => pure ([.text true inside], after)
          | none => throw .unterminatedQuote
        else if c = '"' ∧ s = .braces true then pure ([.text true []], rest)
        else if c = '"' ∧ s ≠ .document then readParts line steps .double rest
        else if c = '$' then do
          let (part, after) ← readDollar line steps s.quotes rest
          pure ([part], after)
        else if c = '\x60' then
          match untilBackquote (s == .double) rest with
          | some (inside, after) => pure ([.output s.quotes false 1 inside], after)
          | none => throw .openBackquote
        else
          let plain (d : Char) : Bool :=
            d ≠ '\\' && d ≠ '\x27' && d ≠ '"' && d ≠ '$' && d ≠ '\x60' && d ≠ '\x7d' &&
              !(s == .bare && endsWord d)
          let text := c :: rest.takeWhile plain
          pure ([.text s.quotes text], rest.dropWhile plain)
      let (more, after) ← readParts line steps s after
      .ok (parts ++ more, after)

/-- Read what follows a dollar sign. A dollar sign before nothing else stands for itself. -/
def readDollar (line : Nat) : Nat → Bool → List Char → PartReading
  | 0, _, _ => .error .unterminatedQuote
  | steps + 1, quoted, cs =>
    match cs with
    | '(' :: '(' :: rest => do
      let (text, after) ← inside [.expression, .expression] rest
      let (word, _) ← readParts line steps .document text.dropLast
      .ok (.arithmetic quoted word, after)
    | '(' :: rest => do
      let (text, after) ← inside [.commands true true 0] rest
      .ok (.output quoted true line text, after)
    | '\x7b' :: rest => readBraces line steps quoted rest
    | c :: rest =>
      if startsVariable c then
        .ok (.parameter quoted (String.ofList (cs.takeWhile inVariable)),
          cs.dropWhile inVariable)
      else if isSpecialParameter c then .ok (.parameter quoted c.toString, rest)
      else .ok (.text quoted ['$'], cs)
    | [] => .ok (.text quoted ['$'], [])

/-- Read what stands between the braces of a parameter, up to the closing one. -/
def readBraces (line : Nat) : Nat → Bool → List Char → PartReading
  | 0, _, _ => .error (.missing "\x7d")
  | steps + 1, quoted, cs =>
    let bad (rest : List Char) : PartReading := do
      let (_, after) ← readParts line steps (.braces quoted) rest
      .ok (.invalid, after)
    let substitute (name : String) (emptyToo : Bool) (how : Fallback) (rest : List Char) :
        PartReading := do
      let (word, after) ← readParts line steps (.braces quoted) rest
      .ok (.substitute quoted name emptyToo how word, after)
    let trim (name : String) (atEnd longest : Bool) (rest : List Char) : PartReading := do
      let (word, after) ← readParts line steps (.braces false) rest
      .ok (.trim quoted name atEnd longest word, after)
    let afterName (name : String) (rest : List Char) : PartReading :=
      match rest with
      | '\x7d' :: after => .ok (.parameter quoted name, after)
      | ':' :: c :: after =>
        match fallback? c with
        | some how => substitute name true how after
        | none => bad (c :: after)
      | '%' :: '%' :: after => trim name true true after
      | '%' :: after => trim name true false after
      | '#' :: '#' :: after => trim name false true after
      | '#' :: after => trim name false false after
      | c :: after =>
        match fallback? c with
        | some how => substitute name false how after
        | none => bad rest
      | [] => bad []
    let nameAt (cs : List Char) : List Char := match cs with
      | c :: _ =>
        if startsVariable c then cs.takeWhile inVariable
        else if c.isDigit then cs.takeWhile Char.isDigit
        else if isSpecialParameter c then [c]
        else []
      | [] => []
    match cs with
    | '#' :: '\x7d' :: after => .ok (.parameter quoted "#", after)
    | '#' :: rest =>
      let name := nameAt rest
      match rest.drop name.length with
      | '\x7d' :: after =>
        if name.isEmpty then bad (rest.drop name.length)
        else .ok (.length quoted (String.ofList name), after)
      | left =>
        if name.head?.any startsVariable then bad left else afterName "#" rest
    | _ =>
      let name := nameAt cs
      if name.isEmpty then bad (if cs.head? = some '\x7d' then cs else cs.drop 1)
      else afterName (String.ofList name) (cs.drop name.length)

end

/-- Read a word from the start of a text. -/
def readToken (line : Nat) (cs : List Char) : Except SyntaxFault (Word × List Char) :=
  readParts line (2 * cs.length + 2) .bare cs

/-- Read a whole text as a word in which quotes mean nothing. -/
def readDocument (line : Nat) (cs : List Char) : Except SyntaxFault Word :=
  (readParts line (2 * cs.length + 2) .document cs).map Prod.fst

/-! ## Operators -/

/-- The operators, longer ones before their starts. -/
def operators : List String :=
  ["<<-", "&&", "||", ";;", ">>", ">&", "<&", "<<", "<>", ">|", ";", "&", "|", "<", ">", "(", ")"]

/-- The tokens after a place with their lines, and the texts that were announced before it. -/
abbrev Lexed := List (Nat × Token) × List (Except SyntaxFault Word)

/-- Take the announced texts off the lines below: the texts, the line on which they end, and what
follows. -/
def takeDocuments (line : Nat) : List Announcement → List Char →
    List (Except SyntaxFault Word) × Nat × List Char
  | [], cs => ([], line, cs)
  | a :: rest, cs =>
    let (text, after) := takeDocument a (cs.length + 1) false cs
    let word := if a.isLiteral then .ok [Part.text true text] else readDocument line text
    let below := line + (cs.count '\n' - after.count '\n')
    let (words, last, after) := takeDocuments below rest after
    (word :: words, last, after)

/-- The tokens of a command with their lines, and the texts that were announced. The line of a
token that goes on over several lines is the last of these, and where the command cannot be read
any further, it is the last of all. -/
def tokensFrom : Nat → Nat → List Announcement → List Char → Lexed
  | 0, line, docs, _ => ([(line, .finish none)], docs.map fun _ => .ok [])
  | _, line, docs, [] => ([(line, .finish none)], docs.map fun _ => .ok [])
  | steps + 1, line, docs, c :: rest =>
    let cons (token : Nat × Token) (lexed : Lexed) : Lexed := (token :: lexed.1, lexed.2)
    if c = ' ' ∨ c = '\t' then tokensFrom steps line docs rest
    else if c = '\\' ∧ rest.head? = some '\n' then
      tokensFrom steps (line + 1) docs (rest.drop 1)
    else if c = '#' then tokensFrom steps line docs (rest.dropWhile (· ≠ '\n'))
    else if c = '\n' then
      let (words, last, after) := takeDocuments (line + 1) docs rest
      ((line + 1, .newline) :: (tokensFrom steps last [] after).1, words)
    else
      match operators.find? fun o => o.toList.isPrefixOf (c :: rest) with
      | some o =>
        let after := (c :: rest).drop o.length
        if o = "<<" ∨ o = "<<-" then
          let blanks := after.takeWhile fun d => d == ' ' || d == '\t'
          let start := after.drop blanks.length
          match readToken line start with
          | .error fault =>
            ([(line, .operator o), (line, .finish (some fault))], docs.map fun _ => .ok [])
          | .ok (_, after) =>
            let raw := start.take (start.length - after.length)
            if raw.isEmpty then cons (line, .operator o) (tokensFrom steps line docs after)
            else
              let (delimiter, isLiteral) := delimiterOf raw
              let (tokens, words) :=
                tokensFrom steps line (docs ++ [⟨delimiter, o == "<<-", isLiteral⟩]) after
              let token : Token := match words.getLast? with
                | some (.ok word) => .document word
                | some (.error fault) => .finish (some fault)
                | none => .document []
              ((line, .operator o) :: (line, token) :: tokens, words.dropLast)
        else cons (line, .operator o) (tokensFrom steps line docs after)
      | none =>
        let next := rest.head?
        if c.isDigit && (next == some '<' || next == some '>') then
          cons (line, .descriptor (c.toNat - '0'.toNat)) (tokensFrom steps line docs rest)
        else
          match readToken line (c :: rest) with
          | .error fault =>
            ([(line + (c :: rest).count '\n', .finish (some fault))], docs.map fun _ => .ok [])
          | .ok (word, after) =>
            let line := line + ((c :: rest).count '\n' - after.count '\n')
            cons (line, .word word) (tokensFrom steps line docs after)

/-- The tokens of a command with their lines, the first of which has the given number. -/
def tokens (line : Nat) (cs : List Char) : List (Nat × Token) :=
  (tokensFrom (2 * cs.length + 2) line [] cs).1

end Confine.Shell
