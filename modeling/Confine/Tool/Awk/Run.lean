import Confine.Tool.Awk.Machine
import Confine.Tool.Awk.Reader

set_option autoImplicit false

/-! # Carrying out programs

Expressions have values, statements change the state, and rules are tried on record after record.
The numbers bound how deep parts lie in one another and how often loops are gone through; where a
bound is met, the program is taken to work on for ever. -/

namespace Confine.Tool.Awk

open Confine.System (Work)
open Run

/-! ## Comparing -/

/-- Whether a comparison holds between two numbers. -/
def Comparison.ofNumbers (how : Comparison) (x y : Float) : Bool :=
  match how with
  | .less => x < y
  | .atMost => x ≤ y
  | .equal => x == y
  | .different => x != y
  | .more => y < x
  | .atLeast => y ≤ x

/-- Whether a comparison holds between two texts. -/
def Comparison.ofTexts (how : Comparison) (a b : List Char) : Bool :=
  match how with
  | .less => a < b
  | .atMost => !(b < a)
  | .equal => a == b
  | .different => a != b
  | .more => b < a
  | .atLeast => !(a < b)

/-- Compare two values: as numbers if both are by their nature, and otherwise as texts. -/
def compared (how : Comparison) (a b : Value) : Run Value := do
  match a.asNumber?, b.asNumber? with
  | some x, some y => return .ofBool (how.ofNumbers x y)
  | _, _ => return .ofBool (how.ofTexts (← textOf a) (← textOf b))

/-! ## Functions that are always there -/

/-- Where a text begins in another one, counted from one on; zero if it is not there. -/
def placeOf (cs text : List Char) : Nat :=
  let rec go : List Char → Nat → Nat
    | [], _ => 0
    | c :: rest, n => if text.isPrefixOf (c :: rest) then n else go rest (n + 1)
  go cs 1

/-- A part of a text, from a place on and so long. -/
def partOf (cs : List Char) (start : Int) (length : Option Int) : List Char :=
  let finish := length.elim (cs.length + 1 : Int) (start + ·)
  let first := max start 1
  (cs.drop (first - 1).toNat).take (finish - first).toNat

/-- The last seed, and the next one, and a number between zero and one. -/
def random : Run Value := do
  let seed := ((← get).seed * 1103515245 + 12345) % Nat.pow 2 31
  modify fun m => { m with seed }
  return .number (seed.toFloat / (Nat.pow 2 31).toFloat)

/-- What a format makes of values. The name is that of the function that uses it. What it makes up to
where it cannot be used is passed on. -/
def formatted (function : String) (passOn : List Char → Run Unit) (form : Value)
    (args : List Value) : Run (List Char) := do
  let cs ← textOf form
  match format (Value.textBy (← numberForm "CONVFMT")) cs args with
  | (text, none) => return text
  | (text, some .few) =>
    passOn text
    failInRun ("not enough arguments passed to " ++ function ++ "(\"" ++ String.ofList cs ++ "\")")
  | (text, some (.improper n)) =>
    passOn text
    failInRun (s!"improper conversion(number {n}) in {function}(\"" ++ String.ofList cs ++ "\")")

/-- A function of one number. -/
def numeric? (name : String) : Option (Float → Float) :=
  match name with
  | "cos" => some Float.cos
  | "exp" => some Float.exp
  | "int" => some truncated
  | "log" => some Float.log
  | "sin" => some Float.sin
  | "sqrt" => some Float.sqrt
  | _ => none

/-- What a function of values gives. -/
def simple (name : String) (args : List Value) : Run Value := do
  let first := args.headD .nothing
  let second := (args.drop 1).headD .nothing
  match numeric? name with
  | some f => return .number (f first.toNumber)
  | none =>
    match name with
    | "atan2" => return .number (Float.atan2 first.toNumber second.toNumber)
    | "rand" => random
    | "srand" =>
      let old := (← get).seed
      let seed := match args with
        | [] => 0
        | v :: _ => (kept v.toNumber).toNat
      modify fun m => { m with seed }
      return .ofNat old
    | "systime" => return .ofNat (← chore (Chore.call .clock))
    | "length" => return .ofNat (← textOf first).length
    | "index" => return .ofNat (placeOf (← textOf first) (← textOf second))
    | "substr" =>
      let length := ((args.drop 2).head?).map fun v => kept v.toNumber
      return .text (partOf (← textOf first) (kept second.toNumber) length)
    | "tolower" => return .text ((← textOf first).map Char.toLower)
    | "toupper" => return .text ((← textOf first).map Char.toUpper)
    | "sprintf" => return .text (← formatted "sprintf" (fun _ => pure ()) first (args.drop 1))
    | "system" => return .ofNat (← runCommand (← textOf first))
    | "close" =>
      match ← close (← textOf first) with
      | some n => return .ofNat n
      | none => return .number (-1.0)
    | "fflush" =>
      pourAll
      return .number 0.0
    | _ => return .nothing

/-! ## Expressions -/

/-- The values of a function's variables while it is carried out. -/
def bindings : List String → List Cell → List (String × Cell)
  | [], _ => []
  | p :: rest, [] => (p, .scalar .nothing) :: bindings rest []
  | p :: rest, c :: cells => (p, c) :: bindings rest cells

/-- Let others have their turn. -/
def pause : Run Unit := do
  let _ ← chore (Chore.call .self)

/-- Put keys together to one. -/
def keyOf (keys : List Value) : Run (List Char) := do
  let texts ← keys.mapM textOf
  return (← Run.textAt "SUBSEP").intercalate texts

mutual

/-- The value of an expression. -/
def eval : Nat → Expr → Run Value
  | 0, _ => chore (Chore.work Work.spin)
  | bound + 1, e => do
    match e with
    | .number x => return .number x
    | .text cs => return .text cs
    | .pattern cs => return .ofBool (isFit (← pattern cs) (← textOf (← get).record))
    | .place p => valueAt bound p
    | .group e => eval bound e
    | .assign p op e =>
      match op with
      | none =>
        let v ← eval bound e
        store bound p v
      | some op =>
        let y := (← eval bound e).toNumber
        let x := (← valueAt bound p).toNumber
        store bound p (.number (op.apply x y))
    | .step p isUp isFirst =>
      let x := (← valueAt bound p).toNumber
      let y := if isUp then x + 1.0 else x - 1.0
      let _ ← store bound p (.number y)
      return .number (if isFirst then y else x)
    | .compute op a b =>
      let x := (← eval bound a).toNumber
      let y := (← eval bound b).toNumber
      return .number (op.apply x y)
    | .compare how a b =>
      let x ← eval bound a
      let y ← eval bound b
      compared how x y
    | .fits isNegated a b =>
      let cs ← textOf (← eval bound a)
      let e ← matcher bound b
      return .ofBool (isFit e cs != isNegated)
    | .join a b =>
      let x ← textOf (← eval bound a)
      let y ← textOf (← eval bound b)
      return .text (x ++ y)
    | .signed isNegative e =>
      let x := (← eval bound e).toNumber
      return .number (if isNegative then -x else x)
    | .no e => return .ofBool (!(← eval bound e).isTrue)
    | .both a b =>
      if (← eval bound a).isTrue then return .ofBool (← eval bound b).isTrue
      else return .ofBool false
    | .any a b =>
      if (← eval bound a).isTrue then return .ofBool true
      else return .ofBool (← eval bound b).isTrue
    | .choose condition a b =>
      if (← eval bound condition).isTrue then eval bound a else eval bound b
    | .has keys array =>
      let key ← keyOf (← evalAll bound keys)
      return .ofBool ((← table (← tableOf array)).find? key).isSome
    | .invoke function args => invoke bound function args
    | .builtin name args => call bound name args
    | .take source target => take bound source target

/-- The values of expressions. -/
def evalAll : Nat → List Expr → Run (List Value)
  | 0, _ => chore (Chore.work Work.spin)
  | _, [] => return []
  | bound + 1, e :: rest => do
    let v ← eval bound e
    return v :: (← evalAll bound rest)

/-- The value at a place. An item that is looked at is there from then on. -/
def valueAt : Nat → Place → Run Value
  | 0, _ => chore (Chore.work Work.spin)
  | bound + 1, p => do
    match p with
    | .named name => value name
    | .field e => field (← fieldNumber (← eval bound e))
    | .item array keys =>
      let key ← keyOf (← evalAll bound keys)
      let n ← tableOf array
      match (← table n).find? key with
      | some v => return v
      | none =>
        changeTable n fun t => t.insert key .nothing
        return .nothing

/-- Give a value to a place. -/
def store : Nat → Place → Value → Run Value
  | 0, _, _ => chore (Chore.work Work.spin)
  | bound + 1, p, v => do
    match p with
    | .named name => setValue name v
    | .field e => setField (← fieldNumber (← eval bound e)) v
    | .item array keys => setItem array (← keyOf (← evalAll bound keys)) v
    return v

/-- The regular expression that an expression stands for. -/
def matcher : Nat → Expr → Run Confine.Text.Regex
  | 0, _ => chore (Chore.work Work.spin)
  | bound + 1, e => do
    match e with
    | .pattern cs => pattern cs
    | _ => pattern (← textOf (← eval bound e))

/-- What a function of the program gives. A variable without a value may become an array in it. -/
def invoke : Nat → String → List Expr → Run Value
  | 0, _, _ => chore (Chore.work Work.spin)
  | bound + 1, name, args => do
    match (← get).program.functions.lookup name with
    | none => return .nothing
    | some f =>
      pause
      let cells ← cellsOf bound args
      let locals := (← get).locals
      modify fun m => { m with locals := bindings f.parameters cells }
      let result ← try
          exec bound f.body
          pure Value.nothing
        catch
          | .give v => pure v
          | stop => throw stop
      modify fun m => { m with locals }
      return result

/-- What arguments stand for. -/
def cellsOf : Nat → List Expr → Run (List Cell)
  | 0, _ => chore (Chore.work Work.spin)
  | _, [] => return []
  | bound + 1, e :: rest => do
    let cell : Cell ← match e with
      | .place (.named name) =>
        if name = "NF" then pure (.scalar (← value name))
        else
          match ← cell? name with
          | some (.scalar .nothing) | none =>
            let n ← newTable
            setCell name (.undecided n)
            pure (.undecided n)
          | some c => pure c
      | _ => pure (.scalar (← eval bound e))
    return cell :: (← cellsOf bound rest)

/-- What a function that is always there gives. -/
def call : Nat → String → List Expr → Run Value
  | 0, _, _ => chore (Chore.work Work.spin)
  | bound + 1, name, args => do
    match name, args with
    | "length", [] => return .ofNat (← textOf (← get).record).length
    | "length", [.place (.named x)] =>
      match ← cell? x with
      | some (.array n) => return .ofNat (← table n).size
      | _ => return .ofNat (← textOf (← value x)).length
    | "match", [text, e] =>
      let cs ← textOf (← eval bound text)
      let e ← matcher bound e
      let (start, length) : Float × Float := match e.search? (lineOf cs) with
        | some (a, r) => ((a + 1).toFloat, (r.place - a).toFloat)
        | none => (0.0, -1.0)
      setValue "RSTART" (.number start)
      setValue "RLENGTH" (.number length)
      return .number start
    | "split", text :: .place (.named array) :: rest =>
      let cs ← textOf (← eval bound text)
      let separator : Separator ← match rest with
        | [] => pure (Separator.ofText (← Run.textAt "FS"))
        | .pattern p :: _ => pure (.pattern p)
        | e :: _ => do
          let cs ← textOf (← eval bound e)
          pure (Separator.ofText cs)
      let found ← cut separator cs
      let items := (List.range found.length).zip found
      let fill (t : Table) (item : Nat × List Char) : Table :=
        t.insert (wholeText (item.1 + 1 : Nat)) (.input item.2)
      changeTable (← tableOf array) fun _ => items.foldl fill {}
      return .ofNat found.length
    | "sub", e :: form :: rest => substitute bound false e form rest
    | "gsub", e :: form :: rest => substitute bound true e form rest
    | _, _ => simple name (← evalAll bound args)

/-- Replace the first match or all matches in a place, which is the record if none is given. -/
def substitute : Nat → Bool → Expr → Expr → List Expr → Run Value
  | 0, _, _, _, _ => chore (Chore.work Work.spin)
  | bound + 1, all, e, form, rest => do
    let target := (rest.headD (.place (.field (.number 0.0))))
    let e ← matcher bound e
    let form ← textOf (← eval bound form)
    let cs ← textOf (← eval bound target)
    let (text, n) := replace e form all cs
    match target with
    | .place p => if n ≠ 0 then let _ ← store bound p (.text text)
    | _ => pure ()
    return .ofNat n

/-- Take a record from somewhere. -/
def take : Nat → Source → Option Place → Run Value
  | 0, _, _ => chore (Chore.work Work.spin)
  | bound + 1, source, target => do
    let text : Option (Option (List Char)) ← match source with
      | .input => do pure (some (← takeInput Work.mostReads))
      | .file e => takeFrom false (← textOf (← eval bound e))
      | .command e => takeFrom true (← textOf (← eval bound e))
    match text with
    | none => return .number (-1.0)
    | some none => return .number 0.0
    | some (some cs) =>
      match target with
      | some p => let _ ← store bound p (.input cs)
      | none => setRecord (.input cs)
      return .number 1.0

/-- Carry out a statement. -/
def exec : Nat → Statement → Run Unit
  | 0, _ => chore (Chore.work Work.spin)
  | bound + 1, s => do
    match s with
    | .block inner => execAll bound inner
    | .expr e => let _ ← eval bound e
    | .print hasFormat args out =>
      let values ← evalAll bound args
      let sink ← match out with
        | none => pure none
        | some (s, e) => do pure (some (s, ← textOf (← eval bound e)))
      if hasFormat then
        let form := values.headD .nothing
        print sink (← formatted "printf" (print sink) form (values.drop 1))
      else
        let values ← if values.isEmpty then do pure [(← get).record] else pure values
        let texts ← values.mapM (textBy "OFMT")
        print sink ((← Run.textAt "OFS").intercalate texts ++ (← Run.textAt "ORS"))
    | .choose condition yes no =>
      if (← eval bound condition).isTrue then exec bound yes
      else
        match no with
        | some s => exec bound s
        | none => pure ()
    | .loop condition body step => loop bound condition body step
    | .loopOnce body condition =>
      if ← turn bound body then loop bound (some condition) body none
    | .each name array body =>
      let keys := (← table (← tableOf array)).keys
      overKeys bound name body keys
    | .next => throw .next
    | .nextFile => throw .nextFile
    | .exit status =>
      match status with
      | some e =>
        let n := kept (← eval bound e).toNumber
        chore (Chore.leave (n % 256).toNat)
      | none => pure ()
      throw .exit
    | .give v =>
      match v with
      | some e => throw (.give (← eval bound e))
      | none => throw (.give .nothing)
    | .leave => throw .leave
    | .again => throw .again
    | .delete array keys =>
      let n ← tableOf array
      match keys with
      | some keys =>
        let key ← keyOf (← evalAll bound keys)
        changeTable n fun t => t.erase key
      | none => changeTable n fun _ => {}

/-- Carry out statements one after another. -/
def execAll : Nat → List Statement → Run Unit
  | 0, _ => chore (Chore.work Work.spin)
  | _, [] => pure ()
  | bound + 1, s :: rest => do
    exec bound s
    execAll bound rest

/-- Carry out what is in a loop, and tell whether to go on. -/
def turn : Nat → Statement → Run Bool
  | 0, _ => chore (Chore.work Work.spin)
  | bound + 1, body => do
    try
      exec bound body
      pure true
    catch
      | .leave => pure false
      | .again => pure true
      | stop => throw stop

/-- Carry out a loop. -/
def loop : Nat → Option Expr → Statement → Option Statement → Run Unit
  | 0, _, _, _ => chore (Chore.work Work.spin)
  | bound + 1, condition, body, step => do
    pause
    let goesOn ← match condition with
      | some e => do pure (← eval bound e).isTrue
      | none => pure true
    if goesOn then
      if ← turn bound body then
        match step with
        | some s => exec bound s
        | none => pure ()
        loop bound condition body step

/-- Carry out a loop over keys. -/
def overKeys : Nat → String → Statement → List (List Char) → Run Unit
  | 0, _, _, _ => chore (Chore.work Work.spin)
  | _, _, _, [] => pure ()
  | bound + 1, name, body, key :: rest => do
    pause
    setValue name (.text key)
    if ← turn bound body then overKeys bound name body rest

end

/-! ## Rules -/

/-- How often parts are gone into. -/
def mostTurns : Nat := 100000000

/-- Whether a rule with a number is for the record. -/
def concerns (n : Nat) (c : Condition) : Run Bool := do
  match c with
  | .first | .last => return false
  | .always => return true
  | .when e => return (← eval mostTurns e).isTrue
  | .between a b =>
    let isInForce := (← get).inForce.contains n
    if isInForce || (← eval mostTurns a).isTrue then
      let isOver := (← eval mostTurns b).isTrue
      modify fun m =>
        let others := m.inForce.filter (· ≠ n)
        { m with inForce := if isOver then others else n :: others }
      return true
    else return false

/-- Try rules on the record. -/
def tryRules : List (Nat × Rule) → Run Unit
  | [] => pure ()
  | (n, r) :: rest => do
    if ← concerns n r.condition then
      exec mostTurns (r.action.getD (.print false [] none))
    tryRules rest

/-- Try rules on all records. The number bounds how many there are. -/
def overRecords (rules : List (Nat × Rule)) : Nat → Run Unit
  | 0 => pure ()
  | steps + 1 => do
    match ← takeInput Work.mostReads with
    | none => pure ()
    | some cs =>
      pause
      setRecord (.input cs)
      try tryRules rules
      catch
        | .next => pure ()
        | .nextFile => closeInput
        | stop => throw stop
      overRecords rules steps

/-- Carry out the rules that are for no record. -/
def outside (p : Program) (isLast : Bool) : Run Unit :=
  p.rules.forM fun r =>
    match r.condition, r.action with
    | .first, some s => if isLast then pure () else exec mostTurns s
    | .last, some s => if isLast then exec mostTurns s else pure ()
    | _, _ => pure ()

/-- Whether a rule is carried out before records are read. -/
def Rule.isFirst (r : Rule) : Bool :=
  r.condition matches .first

/-- Do something that the program may end, and tell whether it has not. -/
def unlessEnded (r : Run Unit) : Run Bool := do
  try
    r
    pure true
  catch
    | .exit => pure false
    | stop => throw stop

/-- Carry out a program. Records are read only if there is a rule for after the start. What was
printed to files and commands comes before the standard output is written to its end. -/
def Program.run (p : Program) : Run Unit := do
  let rules := (List.range p.rules.length).zip p.rules
  let goesOn ← unlessEnded (outside p false)
  let goesOn ← if goesOn && !(p.rules.all Rule.isFirst) then
      unlessEnded (overRecords rules Work.mostReads)
    else pure goesOn
  let _ ← if p.rules.all Rule.isFirst then pure goesOn else unlessEnded (outside p true)
  closeAll
  chore Chore.flushOrFail

end Confine.Tool.Awk
