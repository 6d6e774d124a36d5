import Confine.Exit
import Confine.Shell.Builtin.Basic

set_option autoImplicit false

/-! # Signals in commands

The commands `kill` and `trap`, and the words by which they name signals: the usual names
without their first three letters. -/

namespace Confine.Shell

open Act

/-- The largest number of a signal. -/
def lastSignal : Nat := 64

/-- The word for a signal. The last thirty-one are counted from both ends, and a signal without a
name goes by its number. -/
def signalWord (n : Nat) : String :=
  if n = 0 then "EXIT"
  else if n = 34 then "RTMIN"
  else if 34 < n ∧ n < 50 then s!"RTMIN+{n - 34}"
  else if 50 ≤ n ∧ n < 64 then s!"RTMAX-{64 - n}"
  else if n = 64 then "RTMAX"
  else
    match signalNames.lookup (Int32.ofNat n) with
    | some name => if n = 16 then "16" else String.ofList (name.toList.drop 3)
    | none => toString n

/-- The number of a signal, from its number or its word in letters of any size. -/
def signalNumber? (text : String) : Option Nat :=
  match natural? text with
  | some n => if n ≤ lastSignal then some n else none
  | none => (List.range (lastSignal + 1)).find? fun n => signalWord n == text.toUpper

/-! ## Sending -/

/-- Complain that a job is not known. -/
def noJob {α : Type} (spec : String) : Act α :=
  fail s!"No such job: {spec}"

/-- The job that a text names: by its number, or as the latest one or the one before it. -/
def jobOf (spec : String) : Act Job := do
  let jobs := (← get).jobs
  let found := match spec.toList with
    | ['%'] | ['%', '%'] | ['%', '+'] => jobs.getLast?
    | ['%', '-'] => jobs.dropLast.getLast?
    | '%' :: digits =>
      (natural? (String.ofList digits)).bind fun n => jobs.find? fun job => job.number == n
    | _ => none
  match found with
  | some job => pure job
  | none => noJob spec

/-- The processes that an argument names. -/
def targetOf (arg : String) : Act Int := do
  match arg.toList with
  | '%' :: _ => do return -((← jobOf arg).pid : Int)
  | '-' :: digits => do return -((← numberOf (String.ofList digits)) : Int)
  | _ => do return ((← numberOf arg) : Int)

/-- Send a signal to processes one after another. -/
def sendSignal (n : Nat) : List String → Nat → Act Nat
  | [], status => pure status
  | arg :: args, status => do
    let target ← targetOf arg
    match ← call (.signal target n) with
    | .ok () => sendSignal n args status
    | .error fault =>
      complain (fault.text ++ "\n")
      sendSignal n args 1

/-- What `kill` wants, on two lines. -/
def killUsage : String :=
  "Usage: kill [-s sigspec | -signum | -sigspec] [pid | job]... or\nkill -l [exitstatus]"

/-- Name all signals, or the one behind an outcome. -/
def listSignals : Builtin
  | [] => do
    say "0"
    (List.range lastSignal).forM fun n => say (signalWord (n + 1))
    pure 0
  | outcome :: _ => do
    let n ← numberOf outcome
    let n := if 128 < n then n - 128 else n
    if 0 < n ∧ n ≤ lastSignal then
      say (signalWord n)
      pure 0
    else fail s!"invalid signal number or exit status: {outcome}"

/-- The signal that an option names. -/
def signalOf (spec : String) : Act Nat := do
  match signalNumber? spec with
  | some n => pure n
  | none => fail s!"invalid signal number or name: {spec}"

/-- Send a signal to some processes at least. -/
def killAll (n : Nat) (targets : List String) : Act Nat :=
  if targets.isEmpty then fail killUsage else sendSignal n targets 0

/-- The command `kill`. -/
def kill : Builtin
  | [] => fail killUsage
  | first :: rest => do
    match first.toList with
    | '-' :: spec =>
      match signalNumber? (String.ofList spec) with
      | some n => killAll n rest
      | none =>
        let (chosen, args) ← takeOptions ['l'] ['s'] (rest.length + 2) (first :: rest)
        let signals ← (chosen.filter fun o => o.1 == 's').mapM fun o => signalOf o.2
        let lists := chosen.any fun o => o.1 == 'l'
        if lists && !signals.isEmpty && !args.isEmpty then fail killUsage
        else if lists then listSignals args
        else killAll (signals.getLastD 15) args
    | _ => killAll 15 (first :: rest)

/-! ## Taking up -/

/-- Set or take away what is done for a signal. -/
def setTrap (n : Nat) (action : Option String) : Act Unit := do
  modify fun s =>
    let others := s.traps.filter fun entry => entry.1 ≠ n
    { s with traps := action.elim others fun a => (n, a) :: others }
  if n ≠ 0 then
    let how : System.Disposition := match action with
      | none => .usual
      | some a => if a.isEmpty then .ignored else .caught
    let _ ← call (.handle n how)

/-- Set or take away what is done for some signals, up to the first that is not known; no action is
the usual one. -/
def setTraps (action : Option String) : List String → Act Nat
  | [] => pure 0
  | spec :: specs => do
    match signalNumber? spec with
    | some n =>
      setTrap n action
      setTraps action specs
    | none =>
      let _ ← write 2 s!"trap: {spec}: bad trap\n".toList
      pure 1

/-- Tell what is done for signals, in a form that can be read back. -/
def showTraps : Act Nat := do
  let traps := (← get).traps
  (List.range (lastSignal + 1)).forM fun n =>
    match traps.lookup n with
    | some action => say s!"trap -- {singleQuoted action} {signalWord n}"
    | none => pure ()
  pure 0

/-- The command `trap`. -/
def trap : Builtin := fun args => do
  let (_, args) ← options "" args
  match args with
  | [] => showTraps
  | [spec] => setTraps none [spec]
  | first :: specs =>
    if (natural? first).any (· ≤ lastSignal) then setTraps none (first :: specs)
    else setTraps (if first = "-" then none else some first) specs

end Confine.Shell
