import Confine.Shell.Number
import Confine.Shell.State

set_option autoImplicit false

/-! # Arithmetic in commands

Expressions over 64-bit numbers with the operators of the shell. An expression is read into an
`Expression` and then evaluated over the variables of a shell, which it may also assign. -/

namespace Confine.Shell.Arithmetic

/-- An expression. -/
inductive Expression where
  /-- A number. -/
  | number (n : Int)
  /-- A variable. -/
  | variable (name : String)
  /-- An operator before an expression. -/
  | unary (operator : Char) (e : Expression)
  /-- An operator between two expressions. -/
  | binary (operator : String) (left right : Expression)
  /-- A choice. -/
  | choice (condition yes no : Expression)
  /-- An assignment, possibly of the old value combined with the new one. -/
  | assign (name : String) (operator : String) (e : Expression)
  deriving Inhabited

/-- Why there is no value. -/
inductive Fault where
  /-- Something is missing where a value should be. -/
  | expectingPrimary
  /-- A sign that belongs to the one before is missing. -/
  | expecting (sign : String)
  /-- Something is left over. -/
  | expectingEnd
  /-- A division by zero. -/
  | divisionByZero
  /-- A variable has a value that is not a number. -/
  | notNumber (value : String)
  /-- A variable may not be changed. -/
  | fixed (name : String)
  /-- A quotient is too large, which no processor forgives. -/
  | overflow
  deriving DecidableEq, Repr

/-- The wording of a fault of an expression. -/
def Fault.message (expression : String) (fault : Fault) : String :=
  let about (what : String) := s!"arithmetic expression: {what}: \"{expression}\""
  match fault with
  | .expectingPrimary => about "expecting primary"
  | .expecting sign => about s!"expecting '{sign}'"
  | .expectingEnd => about "expecting EOF"
  | .divisionByZero => about "division by zero"
  | .notNumber value => s!"Illegal number: {value}"
  | .fixed name => s!"{name}: is read only"
  | .overflow => ""

/-! ## Reading -/

/-- A token of an expression. -/
inductive Token where
  /-- A number. -/
  | number (n : Int)
  /-- A name. -/
  | name (s : String)
  /-- An operator or a parenthesis. -/
  | operator (s : String)
  deriving DecidableEq, Repr

/-- The operators, longer ones before their starts. -/
def operators : List String :=
  [ "<<=", ">>=", "||", "&&", "==", "!=", "<=", ">=", "<<", ">>", "+=", "-=", "*=", "/=", "%=",
    "&=", "^=", "|=", "+", "-", "*", "/", "%", "<", ">", "=", "!", "~", "&", "^", "|", "?", ":",
    "(", ")" ]

/-- Whether a character can start a name. -/
def startsName (c : Char) : Bool :=
  c.isAlpha || c == '_'

/-- The tokens of an expression. What is no token otherwise is an operator that nothing takes. The
number bounds how many there can be. -/
def tokens : Nat → List Char → List Token
  | 0, _ => []
  | _, [] => []
  | bound + 1, c :: rest =>
    if c.isWhitespace then tokens bound rest
    else if c.isDigit then
      let (n, after) := wholeAt (c :: rest)
      .number (min n mostInteger) :: tokens bound after
    else if startsName c then
      let inName (c : Char) := c.isAlphanum || c == '_'
      .name (String.ofList ((c :: rest).takeWhile inName)) ::
        tokens bound ((c :: rest).dropWhile inName)
    else
      let o := (operators.find? fun o => o.toList.isPrefixOf (c :: rest)).getD c.toString
      .operator o :: tokens bound ((c :: rest).drop o.length)

/-- How tightly an operator binds. -/
def precedence? : String → Option Nat
  | "||" => some 1
  | "&&" => some 2
  | "|" => some 3
  | "^" => some 4
  | "&" => some 5
  | "==" | "!=" => some 6
  | "<" | "<=" | ">" | ">=" => some 7
  | "<<" | ">>" => some 8
  | "+" | "-" => some 9
  | "*" | "/" | "%" => some 10
  | _ => none

/-- The operator that an assignment combines the old value with; the empty one for a plain
assignment. -/
def assignment? (o : String) : Option String :=
  if o = "=" then some ""
  else if ["+=", "-=", "*=", "/=", "%=", "&=", "^=", "|=", "<<=", ">>="].contains o then
    some (String.ofList o.toList.dropLast)
  else none

/-- What a reader gives: an expression and the tokens after it. -/
abbrev Reading := Except Fault (Expression × List Token)

mutual

/-- Read an expression of the loosest kind. -/
def readAny : Nat → List Token → Reading
  | 0, _ => .error .expectingPrimary
  | steps + 1, ts => do
    match ts with
    | .name x :: .operator o :: rest =>
      match assignment? o with
      | some combine =>
        let (e, rest) ← readAny steps rest
        return (.assign x combine e, rest)
      | none => pure ()
    | _ => pure ()
    let (e, rest) ← readBinary steps 1 ts
    match rest with
    | .operator "?" :: rest =>
      let (yes, rest) ← readAny steps rest
      match rest with
      | .operator ":" :: rest =>
        let (no, rest) ← readAny steps rest
        return (.choice e yes no, rest)
      | _ => throw (.expecting ":")
    | _ => return (e, rest)

/-- Read an expression whose operators bind at least this tightly. -/
def readBinary : Nat → Nat → List Token → Reading
  | 0, _, _ => .error .expectingPrimary
  | steps + 1, level, ts => do
    let (left, rest) ← readUnary steps ts
    readTail steps level left rest

/-- Read what follows an expression, as far as the operators bind tightly enough. -/
def readTail : Nat → Nat → Expression → List Token → Reading
  | 0, _, _, _ => .error .expectingPrimary
  | steps + 1, level, left, ts =>
    match ts with
    | .operator o :: rest =>
      match precedence? o with
      | some p =>
        if p < level then .ok (left, ts)
        else do
          let (right, rest) ← readBinary steps (p + 1) rest
          readTail steps level (.binary o left right) rest
      | none => .ok (left, ts)
    | _ => .ok (left, ts)

/-- Read an expression with operators before it at most. -/
def readUnary : Nat → List Token → Reading
  | 0, _ => .error .expectingPrimary
  | steps + 1, ts =>
    match ts with
    | .number n :: rest => .ok (.number n, rest)
    | .name x :: rest => .ok (.variable x, rest)
    | .operator "(" :: rest => do
      let (e, rest) ← readAny steps rest
      match rest with
      | .operator ")" :: rest => .ok (e, rest)
      | _ => .error (.expecting ")")
    | .operator "+" :: rest => readUnary steps rest
    | .operator "-" :: rest => do
      let (e, rest) ← readUnary steps rest
      .ok (.unary '-' e, rest)
    | .operator "!" :: rest => do
      let (e, rest) ← readUnary steps rest
      .ok (.unary '!' e, rest)
    | .operator "~" :: rest => do
      let (e, rest) ← readUnary steps rest
      .ok (.unary '~' e, rest)
    | _ => .error .expectingPrimary

end

/-- Read a whole expression. -/
def parse (cs : List Char) : Except Fault Expression := do
  let ts := tokens (cs.length + 1) cs
  let (e, rest) ← readAny (5 * ts.length + 5) ts
  if rest.isEmpty then return e else throw .expectingEnd

/-! ## Evaluating -/

/-- A number in the range of signed 64-bit numbers. -/
def wrap (n : Int) : Int :=
  Int.bmod n UInt64.size

/-- A truth value as a number. -/
def ofBool (b : Bool) : Int :=
  if b then 1 else 0

/-- The value of a variable as a number, which may have a sign in front and blanks around it. A
variable without a value is zero. -/
def lookup (s : State) (name : String) : Except Fault Int :=
  let value := (s.parameter? name).getD ""
  let (n, rest) := integerAt value.toList
  if rest.all isBlank && decide (leastInteger ≤ n ∧ n ≤ mostInteger) then .ok n
  else .error (.notNumber value)

/-- An operation on bits, carried out in 64 bits. -/
def onBits (f : UInt64 → UInt64 → UInt64) (a b : Int) : Int :=
  wrap (f (UInt64.ofInt a) (UInt64.ofInt b)).toNat

/-- Apply an operator whose operands are both needed. -/
def apply (operator : String) (a b : Int) : Except Fault Int :=
  match operator with
  | "+" => .ok (wrap (a + b))
  | "-" => .ok (wrap (a - b))
  | "*" => .ok (wrap (a * b))
  | "/" =>
    if b = 0 then .error .divisionByZero
    else if a = leastInteger ∧ b = -1 then .error .overflow
    else .ok (a.tdiv b)
  | "%" =>
    if b = 0 then .error .divisionByZero
    else if a = leastInteger ∧ b = -1 then .error .overflow
    else .ok (a.tmod b)
  | "<<" => .ok (onBits (fun x y => x <<< y) a b)
  | ">>" => .ok (a >>> (b.toNat % 64))
  | "<" => .ok (ofBool (a < b))
  | "<=" => .ok (ofBool (a ≤ b))
  | ">" => .ok (ofBool (b < a))
  | ">=" => .ok (ofBool (b ≤ a))
  | "==" => .ok (ofBool (a == b))
  | "!=" => .ok (ofBool (a != b))
  | "&" => .ok (onBits (fun x y => x &&& y) a b)
  | "^" => .ok (onBits (fun x y => x ^^^ y) a b)
  | "|" => .ok (onBits (fun x y => x ||| y) a b)
  | _ => .ok b

/-- The value of an expression, and the state after it. -/
def eval : Expression → State → Except Fault (Int × State)
  | .number n, s => .ok (wrap n, s)
  | .variable x, s => do .ok (wrap (← lookup s x), s)
  | .unary o e, s => do
    let (v, s) ← eval e s
    .ok (if o = '-' then wrap (-v) else if o = '!' then ofBool (v == 0) else -v - 1, s)
  | .binary "&&" l r, s => do
    let (a, s) ← eval l s
    if a = 0 then .ok (0, s)
    else do
      let (b, s) ← eval r s
      .ok (ofBool (b != 0), s)
  | .binary "||" l r, s => do
    let (a, s) ← eval l s
    if a ≠ 0 then .ok (1, s)
    else do
      let (b, s) ← eval r s
      .ok (ofBool (b != 0), s)
  | .binary o l r, s => do
    let (a, s) ← eval l s
    let (b, s) ← eval r s
    .ok (← apply o a b, s)
  | .choice c y n, s => do
    let (v, s) ← eval c s
    if v ≠ 0 then eval y s else eval n s
  | .assign x combine e, s => do
    let (v, s) ← eval e s
    let v ← if combine.isEmpty then .ok v else apply combine (← lookup s x) v
    if s.isFixed x then .error (.fixed x) else .ok (v, s.assign x (toString v))

end Confine.Shell.Arithmetic
