import Confine.Toml.Quotation
import Confine.Toml.Scalar

set_option autoImplicit false

/-! # Reading TOML

A document is read in one pass: each header and each assignment is applied to the table built
so far, and the first fault ends the reading. Values nest, so their readers carry two numbers:
a bound on the number of steps, for which the length of the text is always enough, and the
depth that is left, which limits how deep brackets and braces may nest. -/

namespace Confine.Toml

/-! ## Blanks and comments -/

/-- The text after the blanks on a line. -/
def skipBlanks (cs : List Char) : List Char :=
  cs.dropWhile fun c => c == ' ' || c == '\t'

/-- The text after blanks, newlines and comments. The flag tells whether a comment has begun.
A comment holds no controls but the tab. -/
def skipTrivia (comment : Bool) : List Char → Option (List Char)
  | [] => some []
  | c :: rest =>
    if c = '\n' then skipTrivia false rest
    else if c = '\r' then
      if rest.head? = some '\n' then skipTrivia false rest else none
    else if comment then
      if isPlain c then skipTrivia true rest else none
    else if c = ' ' ∨ c = '\t' then skipTrivia false rest
    else if c = '#' then skipTrivia true rest
    else some (c :: rest)

/-- The text after the end of a line, at which nothing but a comment may be left. -/
def endLine (cs : List Char) : Option (List Char) :=
  match skipBlanks cs with
  | [] => some []
  | c :: rest => if c = '\n' ∨ c = '\r' ∨ c = '#' then skipTrivia false (c :: rest) else none

/-! ## Keys -/

/-- Whether a character can be part of a name without quotes. -/
def isBare (c : Char) : Bool :=
  c.isAlphanum || c == '_' || c == '-'

/-- Read a name. -/
def readName (cs : List Char) : Option (String × List Char) :=
  match cs with
  | [] => none
  | c :: _ =>
    if isBare c then some (String.ofList (cs.takeWhile isBare), cs.dropWhile isBare)
    else (readQuoted? cs).map fun (name, rest) => (String.ofList name, rest)

/-- How deep brackets and braces may nest, and how many names a key may have. -/
def maxDepth : Nat := 80

/-- Read names with dots between them, no more than a number of them: all but the last, and the
last. -/
def readNames : Nat → List Char → Option ((List String × String) × List Char)
  | 0, _ => none
  | names + 1, cs => do
    let (name, rest) ← readName (skipBlanks cs)
    match skipBlanks rest with
    | '.' :: more => do
      let ((path, last), rest) ← readNames names more
      some ((name :: path, last), rest)
    | rest => some (([], name), rest)

/-- Read a key, with the blanks on the line after it. -/
def readKey (cs : List Char) : Option ((List String × String) × List Char) :=
  readNames maxDepth cs

/-! ## Values -/

mutual

/-- Read a value. -/
def readValue : Nat → Nat → List Char → Option (Value × List Char)
  | 0, _, _ => none
  | steps + 1, depth, cs =>
    match cs with
    | [] => none
    | c :: rest =>
      if c = '"' ∨ c = '\x27' then
        (readText? cs).map fun (text, rest) => (.string (String.ofList text), rest)
      else if c = '[' then
        match depth with
        | 0 => none
        | depth + 1 => do
          let (items, rest) ← readItems steps depth (← skipTrivia false rest)
          some (.array items, rest)
      else if c = '\x7b' then
        match depth with
        | 0 => none
        | depth + 1 => do
          let (entries, rest) ← readEntries steps depth [] (← skipTrivia false rest)
          some (.table .inline entries, rest)
      else do
        let (run, rest) := takeRun cs
        let value ← scalar? run
        some (value, rest)

/-- Read the items of an array up to its closing bracket. -/
def readItems : Nat → Nat → List Char → Option (List Value × List Char)
  | 0, _, _ => none
  | steps + 1, depth, cs =>
    match cs with
    | ']' :: rest => some ([], rest)
    | _ => do
      let (item, rest) ← readValue steps depth cs
      match ← skipTrivia false rest with
      | ']' :: rest => some ([item], rest)
      | ',' :: rest => do
        let (items, rest) ← readItems steps depth (← skipTrivia false rest)
        some (item :: items, rest)
      | _ => none

/-- Read the entries of an inline table up to its closing brace, after those read before. -/
def readEntries : Nat → Nat → Entries → List Char → Option (Entries × List Char)
  | 0, _, _, _ => none
  | steps + 1, depth, es, cs =>
    match cs with
    | '\x7d' :: rest => some (es, rest)
    | _ => do
      let ((path, name), rest) ← readKey cs
      match ← skipTrivia false rest with
      | '=' :: rest => do
        let (value, rest) ← readValue steps depth (← skipTrivia false rest)
        let es ← es.insert path name value .header
        match ← skipTrivia false rest with
        | '\x7d' :: rest => some (es, rest)
        | ',' :: rest => readEntries steps depth es (← skipTrivia false rest)
        | _ => none
      | _ => none

end

/-! ## Documents -/

/-- Read statements and apply them to a document. The path is that of the latest header. -/
def readStatements : Nat → List String → Entries → List Char → Option Entries
  | 0, _, _, _ => none
  | steps + 1, current, es, cs => do
    match ← skipTrivia false cs with
    | [] => some es
    | '[' :: '[' :: rest => do
      let ((path, name), rest) ← readKey rest
      match rest with
      | ']' :: ']' :: rest => do
        let es ← es.openNext path name
        readStatements steps (path ++ [name]) es (← endLine rest)
      | _ => none
    | '[' :: rest => do
      let ((path, name), rest) ← readKey rest
      match rest with
      | ']' :: rest => do
        let es ← es.openTable path name
        readStatements steps (path ++ [name]) es (← endLine rest)
      | _ => none
    | rest => do
      let ((path, name), rest) ← readKey rest
      match rest with
      | '=' :: rest => do
        let (value, rest) ← readValue steps maxDepth (skipBlanks rest)
        let es ← Entries.within (Entries.insert path name value .header) current es
        readStatements steps current es (← endLine rest)
      | _ => none

/-- The text without the mark that some editors put in front. -/
def dropMark : List Char → List Char
  | '\ufeff' :: rest => rest
  | cs => cs

/-- The document that a text writes. -/
def read? (text : String) : Option Entries :=
  let cs := dropMark text.toList
  readStatements (cs.length + 1) [] [] cs

end Confine.Toml
