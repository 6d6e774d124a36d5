import Confine.Shell.Format
import Confine.Text.Regex
import Confine.Tool.Basic

set_option autoImplicit false

/-! # Tools for numbers

`seq` counts, and `expr` computes with whole numbers and texts. Both work with numbers of any
size. -/

namespace Confine.Tool

open Confine.System (Work)
open Chore
open Confine.Text (Regex)

/-! ## Counting -/

/-- A number with some decimal places. -/
structure DecimalNumber where
  /-- The number without its point. -/
  digits : Int
  /-- How many of its digits are places after the point. -/
  places : Nat

namespace DecimalNumber

/-- The digits that a number has with so many places. -/
def scaledTo (d : DecimalNumber) (places : Nat) : Int :=
  d.digits * Nat.pow 10 (places - d.places)

/-- Read a number. An exponent moves the point. -/
def of? (text : String) : Option DecimalNumber :=
  let cs := text.toList.dropWhile fun c => c == ' ' || c == '\t'
  let negative := cs.head? == some '-'
  let cs := if negative || cs.head? == some '+' then cs.drop 1 else cs
  let whole := cs.takeWhile Char.isDigit
  let rest := cs.drop whole.length
  let hasPoint := rest.head? == some '.'
  let fraction := if hasPoint then (rest.drop 1).takeWhile Char.isDigit else []
  let rest := if hasPoint then rest.drop (fraction.length + 1) else rest
  let value (ds : List Char) : Nat := ds.foldl (fun n c => n * 10 + (c.toNat - '0'.toNat)) 0
  let n : Int := value (whole ++ fraction)
  let n := if negative then -n else n
  if (whole ++ fraction).isEmpty then none
  else
    match rest with
    | [] => some ⟨n, fraction.length⟩
    | e :: power =>
      let down := power.head? == some '-'
      let power := if down || power.head? == some '+' then power.drop 1 else power
      if (e ≠ 'e' ∧ e ≠ 'E') ∨ power.isEmpty ∨ !power.all Char.isDigit then none
      else
        let k := min (value power) 5000
        if down then some ⟨n, fraction.length + k⟩
        else some ⟨n * Nat.pow 10 (k - fraction.length), fraction.length - k⟩

/-- A number with some places in writing. -/
def render (digits : Int) (places : Nat) : String :=
  let text := Nat.toDigits 10 digits.natAbs
  let text := List.replicate (places + 1 - text.length) '0' ++ text
  let whole := text.take (text.length - places)
  let fraction := text.drop (text.length - places)
  (if digits < 0 then "-" else "") ++ String.ofList whole ++
    (if places = 0 then "" else "." ++ String.ofList fraction)

end DecimalNumber

/-- Write numbers until one of them is past the last. Those of one round are written together; the
number bounds the rounds. -/
def countOn (line : Int → List Char) (first step : Int) (isPast : Int → Bool) :
    Nat → Nat → Chore Unit
  | 0, _ => pure ()
  | rounds + 1, k => do
    let some' := (List.range 512).map fun j => first + step * ((k + j : Nat) : Int)
    let kept := some'.takeWhile fun n => !isPast n
    put (kept.flatMap line)
    if kept.length = 512 then
      flushOrFail
      countOn line first step isPast rounds (k + 512)

/-- The parts of a format: what stands before its only directive, the directive, and what stands
after it. -/
def formatParts? (format : String) : Except String (List Char × Shell.Conversion × List Char) :=
  let cs := format.toList
  let rec before : Nat → List Char → List Char × List Char
    | 0, cs => ([], cs)
    | bound + 1, '%' :: '%' :: rest =>
      let (start, after) := before bound rest
      ('%' :: start, after)
    | _, '%' :: rest => ([], '%' :: rest)
    | _, [] => ([], [])
    | bound + 1, c :: rest =>
      let (start, after) := before bound rest
      (c :: start, after)
  let (start, rest) := before (cs.length + 1) cs
  match rest with
  | [] => .error s!"format '{format}' has no % directive"
  | _ :: rest =>
    let (c, rest, _, _) := Shell.conversionAt rest []
    match rest with
    | [] => .error s!"format '{format}' ends in %"
    | letter :: rest =>
      if !(['a', 'A', 'e', 'E', 'f', 'F', 'g', 'G'].contains letter) then
        .error s!"format '{format}' has unknown %{letter} directive"
      else
        let (finish, after) := before (rest.length + 1) rest
        if after.isEmpty then .ok (start, { c with letter }, finish)
        else .error s!"format '{format}' has too many % directives"

/-- The tool `seq`. -/
def seq : Utility := toWork do
  let args := (← get).setting.arguments
  let isNegative (a : String) : Bool :=
    match a.toList with
    | '-' :: c :: _ => c.isDigit || c == '.'
    | _ => false
  let flags : List Flag := [⟨'f', true, "format", false⟩, ⟨'s', true, "separator", false⟩,
    ⟨'w', false, "equal-width", false⟩]
  let front := args.takeWhile (!isNegative ·)
  let isAfterNumber := match parseFrom flags true (front.length + 1) front with
    | .ok p => !p.operands.isEmpty
    | .error _ => false
  let guarded := if isAfterNumber || front.length = args.length then args
    else front ++ "--" :: args.drop front.length
  modify fun b => { b with setting := { b.setting with arguments := guarded } }
  let p ← parse flags true
  let operands := p.operands
  if operands.isEmpty then misuse "missing operand"
  if operands.length > 3 then
    let extra := (operands[3]?).getD ""
    misuse s!"extra operand '{extra}'"
  let endless := ["inf", "infinity"].contains (operands.getLastD "")
  let numbers ← (if endless then operands.dropLast else operands).mapM fun text => do
    match DecimalNumber.of? text with
    | some d => pure d
    | none => misuse s!"invalid floating point argument: '{text}'"
  let one : DecimalNumber := ⟨1, 0⟩
  let (first, step, last) := match numbers, endless with
    | [last], false => (one, one, last)
    | [first, last], false => (first, one, last)
    | [first, step, last], false => (first, step, last)
    | [first], true => (first, one, one)
    | [first, step], true => (first, step, one)
    | _, _ => (one, one, one)
  if step.digits = 0 then
    let text := (operands[1]?).getD "0"
    misuse s!"invalid Zero increment value: '{text}'"
  let places := max first.places step.places
  let scale := max places last.places
  let (a, d, z) := (first.scaledTo scale, step.scaledTo scale, last.scaledTo scale)
  let isPast (n : Int) : Bool := !endless && (if 0 < d then decide (z < n) else decide (n < z))
  let shown (n : Int) : Int := n / (Nat.pow 10 (scale - places) : Nat)
  let ending := DecimalNumber.render (shown (a + d * ((z - a) / d))) places
  let start := DecimalNumber.render (shown a) places
  let width := if p.has 'w' then max start.length ending.length else 0
  let plain (n : Int) : String :=
    let text := DecimalNumber.render (shown n) places
    let zeros := String.ofList (List.replicate (width - text.length) '0')
    if text.startsWith "-" then "-" ++ zeros ++ String.ofList (text.toList.drop 1)
    else zeros ++ text
  let text ← match p.last? 'f' with
    | none => pure fun n => (plain n).toList
    | some format =>
      match formatParts? format with
      | .error reason => fail reason
      | .ok (start, c, finish) =>
        if p.has 'w' then
          misuse "format string may not be specified when printing equal width strings"
        else
          let real (n : Int) : Text.Real :=
            (Text.Real.ofQuotient (decide (n < 0)) n.natAbs (Nat.pow 10 scale)).1
          pure fun n => start ++ c.ofReal (real n) ++ finish
  let separator := ((p.last? 's').getD "\n").toList
  if !isPast a then
    put (text a)
    countOn (fun n => separator ++ text n) (a + d) d isPast Work.mostReads 0
    put ['\n']

/-! ## Computing -/

/-- A value of an expression. -/
abbrev Operand := String

/-- Why an expression has no value. -/
inductive ExprFault where
  /-- It ends too early. -/
  | missing (after : String)
  /-- Something stands where nothing should. -/
  | unexpected (word : String)
  /-- A parenthesis is not closed. -/
  | unclosed (after : String)
  /-- Something else stands where a parenthesis should be closed. -/
  | notClosing (word : String)
  /-- A text is no number. -/
  | noNumber
  /-- A number is divided by zero. -/
  | byZero
  /-- A pattern cannot be read. -/
  | badPattern (fault : Regex.ReadFault)

/-- The wording of a fault. -/
def ExprFault.message : ExprFault → String
  | .missing after => s!"syntax error: missing argument after '{after}'"
  | .unexpected word => s!"syntax error: unexpected argument '{word}'"
  | .unclosed after => s!"syntax error: expecting ')' after '{after}'"
  | .notClosing word => s!"syntax error: expecting ')' instead of '{word}'"
  | .noNumber => "non-integer argument"
  | .byZero => "division by zero"
  | .badPattern fault => fault.message

/-- The whole number that a text writes. -/
def wholeNumber? (text : String) : Option Int :=
  match text.toList with
  | '-' :: rest => (natural? rest).map fun n => -(n : Int)
  | cs => (natural? cs).map Int.ofNat

/-- Whether a value counts as false. -/
def isFalse (value : Operand) : Bool :=
  value.isEmpty ||
    (let cs := value.toList
     let digits := if cs.head? = some '-' then cs.drop 1 else cs
     !digits.isEmpty && digits.all (· == '0'))

/-- What a pattern that starts where a text does matches: its first group, or how long it is. -/
def matchedBy (text pattern : Operand) : Except ExprFault Operand :=
  let cs := pattern.toList
  let pattern := if cs.head? = some '^' then cs.drop 1 else cs
  match Regex.parse false pattern with
  | .error fault => .error (.badPattern fault)
  | .ok e =>
    let line : Regex.Line := { text := text.toList.toArray }
    let hasGroup := 0 < e.groupCount
    match e.matchAt? line 0 with
    | none => .ok (if hasGroup then "" else "0")
    | some r => .ok (if hasGroup then String.ofList (r.piece line 1) else toString r.place)

/-- Compare two values, as numbers if both are. -/
def compared (operator : String) (a b : Operand) : Bool :=
  let order := match wholeNumber? a, wholeNumber? b with
    | some m, some n => compare m n
    | _, _ => compare a b
  match operator with
  | "<" => order == .lt
  | "<=" => order != .gt
  | "=" | "==" => order == .eq
  | "!=" => order != .eq
  | ">=" => order != .lt
  | _ => order == .gt

/-- Compute with two numbers. -/
def computed (operator : String) (a b : Operand) : Except ExprFault Operand :=
  match wholeNumber? a, wholeNumber? b with
  | some m, some n =>
    match operator with
    | "+" => .ok (toString (m + n))
    | "-" => .ok (toString (m - n))
    | "*" => .ok (toString (m * n))
    | "/" => if n = 0 then .error .byZero else .ok (toString (Int.tdiv m n))
    | _ => if n = 0 then .error .byZero else .ok (toString (Int.tmod m n))
  | _, _ => .error .noNumber

/-- What an operator gives for two values. -/
def operated (operator : String) (a b : Operand) : Except ExprFault Operand :=
  match operator with
  | "|" => .ok (if !isFalse a then a else if isFalse b then "0" else b)
  | "&" => .ok (if isFalse a || isFalse b then "0" else a)
  | ":" => matchedBy a b
  | "+" | "-" | "*" | "/" | "%" => computed operator a b
  | _ => .ok (if compared operator a b then "1" else "0")

/-- The operators by how closely they bind, the loosest first. -/
def operatorLevels : List (List String) :=
  [["|"], ["&"], ["<", "<=", "=", "==", "!=", ">=", ">"], ["+", "-"], ["*", "/", "%"], [":"]]

/-- How far an expression has been read: the words that are left, and the last one that was. -/
structure Words where
  /-- The words that are left. -/
  rest : List String
  /-- The last word that was read. -/
  last : String

/-- A reader of expressions. The flag tells whether the value counts. -/
abbrev ExprReader := Words → Except ExprFault (Operand × Words)

/-- The place of the first character of a text that is one of some. -/
def indexOf (text those : Operand) : Nat :=
  match text.toList.findIdx? fun c => those.toList.contains c with
  | some n => n + 1
  | none => 0

/-- A piece of a text. -/
def pieceOf (text position length : Operand) : Operand :=
  match wholeNumber? position, wholeNumber? length with
  | some p, some n =>
    if p < 1 ∨ n < 1 then ""
    else String.ofList ((text.toList.drop (p.toNat - 1)).take n.toNat)
  | _, _ => ""

mutual

/-- Read operators of some levels and what stands between them. The flag tells whether values
count; where they do not, nothing is computed. -/
def readLevel (counts : Bool) : Nat → List (List String) → ExprReader
  | 0, _, w => .error (.missing w.last)
  | bound + 1, [], w => readOperand counts bound w
  | bound + 1, operators :: inner, w => do
    let (value, w) ← readLevel counts bound inner w
    readMore counts bound operators inner value w

/-- Read further operators of one level after a value. -/
def readMore (counts : Bool) : Nat → List String → List (List String) → Operand → ExprReader
  | 0, _, _, _, w => .error (.missing w.last)
  | bound + 1, operators, inner, value, w => do
    match w.rest with
    | [] => .ok (value, w)
    | operator :: rest =>
      if !operators.contains operator then .ok (value, w)
      else
        let needed := counts &&
          !((operator == "|" && !isFalse value) || (operator == "&" && isFalse value))
        let (right, w) ← readLevel needed bound inner ⟨rest, operator⟩
        let result ← if counts then operated operator value right else .ok value
        readMore counts bound operators inner result w

/-- Read what stands between operators. -/
def readOperand (counts : Bool) : Nat → ExprReader
  | 0, w => .error (.missing w.last)
  | bound + 1, w => do
    let operand (w : Words) : Except ExprFault (Operand × Words) := readOperand counts bound w
    match w.rest with
    | [] => .error (.missing w.last)
    | "+" :: rest =>
      match rest with
      | [] => .error (.missing "+")
      | word :: rest => .ok (word, ⟨rest, word⟩)
    | "length" :: rest => do
      let (a, w) ← operand ⟨rest, "length"⟩
      .ok (toString a.length, w)
    | "match" :: rest => do
      let (a, w) ← operand ⟨rest, "match"⟩
      let (b, w) ← operand w
      let matched ← if counts then matchedBy a b else .ok a
      .ok (matched, w)
    | "index" :: rest => do
      let (a, w) ← operand ⟨rest, "index"⟩
      let (b, w) ← operand w
      .ok (toString (indexOf a b), w)
    | "substr" :: rest => do
      let (a, w) ← operand ⟨rest, "substr"⟩
      let (b, w) ← operand w
      let (c, w) ← operand w
      .ok (pieceOf a b c, w)
    | "(" :: rest => do
      let (value, w) ← readLevel counts bound operatorLevels ⟨rest, "("⟩
      match w.rest with
      | ")" :: rest => .ok (value, ⟨rest, ")"⟩)
      | [] => .error (.unclosed w.last)
      | word :: _ => .error (.notClosing word)
    | ")" :: _ => .error (.unexpected ")")
    | word :: rest => .ok (word, ⟨rest, word⟩)

end

/-- The tool `expr`. -/
def expr : Utility := toWork do
  let args := (← get).setting.arguments
  let args := if args.head? = some "--" then args.drop 1 else args
  if args.isEmpty then misuse "missing operand" 2
  let bound := 16 * args.length + 16
  match readLevel true bound operatorLevels ⟨args, ""⟩ with
  | .error fault => fail fault.message 2
  | .ok (value, w) =>
    match w.rest with
    | word :: _ => fail (ExprFault.unexpected word).message 2
    | [] =>
      say value
      leave (if isFalse value then 1 else 0)

end Confine.Tool
