import Confine.Text.Real
import Confine.Shell.Builtin.Signal
import Confine.System.Signal
import Confine.Tool.Basic

set_option autoImplicit false

/-! # Tools that wait

`sleep` waits for some time, and `timeout` gives a program some time and then sends it a signal. -/

namespace Confine.Tool

open Confine.System (Work)
open Chore

/-! ## Lengths of time -/

/-- A length of time, in milliseconds unless it is endless. -/
abbrev Duration := Option Nat

/-- The sum of two lengths of time. -/
def Duration.add : Duration → Duration → Duration
  | some m, some n => some (m + n)
  | _, _ => none

/-- The seconds that a letter after a number stands for. -/
def unitOf? : List Char → Option Nat
  | [] | ['s'] => some 1
  | ['m'] => some 60
  | ['h'] => some 3600
  | ['d'] => some 86400
  | _ => none

/-- The length of time that a text writes. A part of a millisecond counts as a whole one. -/
def duration? (text : String) : Option Duration := do
  let cs := text.toList.dropWhile fun c => c == ' ' || ('\t' ≤ c && c ≤ '\r')
  let (number, _, rest) ← Text.Real.at? cs
  let seconds ← unitOf? rest
  match number with
  | .infinite false => some none
  | .finite negative m e =>
    if negative ∧ m ≠ 0 then none
    else
      let whole := m * seconds * 1000
      if 0 ≤ e then some (some (whole * Nat.pow 2 e.toNat))
      else
        let parts := Nat.pow 2 (-e).toNat
        some (some ((whole + parts - 1) / parts))
  | _ => none

/-- The longest sleep that is waited for. -/
def longest : Nat := 1000000000000000

/-- The tool `sleep`. -/
def sleep : Utility := toWork do
  let p ← parse []
  if p.operands.isEmpty then misuse "missing operand"
  let times ← p.operands.filterMapM fun text => do
    match duration? text with
    | some d => pure (some d)
    | none =>
      complain s!"invalid time interval '{text}'"
      pure none
  if times.length < p.operands.length then
    let name ← name
    warn s!"Try '{name} --help' for more information.\n"
    throw 1
  call (.sleep ((times.foldl Duration.add (some 0)).getD longest))

/-! ## Limits on time -/

/-- Wait for a child up to some time: the number that it ends with and whether it was in time. Time
is taken in small steps, which the first number bounds. -/
def waitUntil (child finish : Nat) : Nat → Nat → Chore (Option ExitReport)
  | 0, _ => pure none
  | steps + 1, pause => do
    match ← call (.wait (some child) .none) with
    | .ok (some (_, report)) => pure (some report)
    | .error _ => pure (some (.exited 0))
    | .ok none =>
      let now ← call .clock
      if finish ≤ now then pure none
      else
        call (.sleep (min pause (finish - now)))
        waitUntil child finish steps (min (pause * 2) 16)

/-- Wait for a child until it ends. -/
def waitFor (child : Nat) : Chore ExitReport := do
  match ← call (.wait (some child) .untilEnd) with
  | .ok (some (_, report)) => pure report
  | _ => pure (.exited 0)

/-- The number that tells how a child has ended. -/
def statusOf (report : ExitReport) : Nat :=
  match report.code, report.signal with
  | some code, _ => code.toInt.toNat
  | none, some n => 128 + n.toInt.toNat
  | none, none => 0

/-- The signal that `timeout` sends unless another one is asked for. -/
def endSignal : Nat := 15

/-- Send a signal to a child, and to itself as well if nothing can be done about it. -/
def sendBoth (child signal : Nat) : Chore Unit := do
  let _ ← call (.signal child signal)
  if signal = System.killSignal then
    let self ← call .self
    let _ ← call (.signal self signal)

/-- The tool `timeout`. -/
def timeout : Utility := toWork do
  let p ← parse [⟨'s', true, "signal", false⟩, ⟨'k', true, "kill-after", false⟩,
    ⟨'v', false, "verbose", false⟩, ⟨'p', false, "preserve-status", false⟩,
    ⟨'f', false, "foreground", false⟩] true 125
  let signal ← match p.last? 's' with
    | none => pure endSignal
    | some text =>
      match Shell.signalNumber? text with
      | some n => pure n
      | none => misuse s!"'{text}': invalid signal" 125
  let timeOf (text : String) : Chore Duration := do
    match duration? text with
    | some d => pure d
    | none => misuse s!"invalid time interval '{text}'" 125
  let patience ← (p.last? 'k').mapM timeOf
  match p.operands with
  | [] | [_] => do
    let name ← name
    warn s!"Try '{name} --help' for more information.\n"
    throw 125
  | text :: argv =>
    let limit ← timeOf text
    let setting := (← get).setting
    let child : Work Nat := do
      match ← setting.become setting.vars argv with
      | .ok status => pure status
      | .error fault =>
        let name := argv.headD ""
        let text := s!"{setting.name}: failed to run command '{name}': {fault.text}\n"
        let _ ← Work.write 2 (Text.toBytes text.toList)
        pure (if fault = .notFound then 127 else 126)
    match ← work (Work.fork child.toTask) with
    | .error fault => fail s!"fork system call failed: {fault.text}" 125
    | .ok pid =>
      let endOf (d : Duration) : Chore Nat := do
        return (← call .clock) + (match d with
          | some 0 | none => longest
          | some n => n)
      match ← waitUntil pid (← endOf limit) Work.mostReads 1 with
      | some report => leave (statusOf report)
      | none =>
        sendBoth pid signal
        let _ ← call (.signal pid 18)
        let report ← match patience with
          | none => waitFor pid
          | some d =>
            match ← waitUntil pid (← endOf d) Work.mostReads 1 with
            | some report => pure report
            | none =>
              sendBoth pid System.killSignal
              waitFor pid
        let killed := report.signal == some 9
        leave (if p.has 'p' || killed then statusOf report else 124)

end Confine.Tool
