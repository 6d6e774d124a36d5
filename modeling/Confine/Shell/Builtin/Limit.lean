import Confine.Shell.Builtin.Basic

set_option autoImplicit false

/-! # Limits and masks

The commands `ulimit` and `umask`. -/

namespace Confine.Shell

open Act
open Confine.System (Resource Cap)

/-! ## Limits -/

/-- A kind of limit as it is named and counted. -/
structure Gauge where
  /-- Its letter. -/
  letter : Char
  /-- Its name. -/
  name : String
  /-- What it limits. -/
  resource : Resource
  /-- In what it is counted. -/
  unit : Nat

/-- All kinds of limits. -/
def gauges : List Gauge :=
  [ ⟨'t', "time(seconds)", .cpuTime, 1⟩,
    ⟨'f', "file(blocks)", .fileSize, 512⟩,
    ⟨'d', "data(kbytes)", .data, 1024⟩,
    ⟨'s', "stack(kbytes)", .stack, 1024⟩,
    ⟨'c', "coredump(blocks)", .core, 512⟩,
    ⟨'m', "memory(kbytes)", .resident, 1024⟩,
    ⟨'l', "locked memory(kbytes)", .locked, 1024⟩,
    ⟨'p', "process", .processes, 1⟩,
    ⟨'n', "nofiles", .files, 1⟩,
    ⟨'v', "vmemory(kbytes)", .memory, 1024⟩,
    ⟨'w', "locks", .locks, 1⟩,
    ⟨'r', "rtprio", .priority, 1⟩ ]

/-- Which of the two limits are meant. -/
structure Sides where
  /-- Whether the soft limit is meant. -/
  soft : Bool := true
  /-- Whether the hard limit is meant. -/
  hard : Bool := true

/-- A limit in writing. The soft one is shown where both are meant. -/
def Gauge.show (g : Gauge) (sides : Sides) (cap : Cap) : String :=
  (if sides.soft then cap.soft else cap.hard).elim "unlimited" fun n => toString (n / g.unit)

/-- The value of a limit that a text writes, no larger than the largest number of 64 bits. -/
def capValue (g : Gauge) (text : String) : Act (Option Nat) := do
  if text = "unlimited" then pure none
  else
    match if text.isEmpty then some 0 else natural? text with
    | some n =>
      let value := n * g.unit % UInt64.size
      return if value = UInt64.size - 1 then none else some value
    | none => fail "bad number"

/-- The command `ulimit`. -/
def ulimit : Builtin := fun args => do
  let letters := gauges.map Gauge.letter
  let (chosen, values) ← takeOptions ('H' :: 'S' :: 'a' :: letters) [] (args.length + 1) args
  let chosen := chosen.map Prod.fst
  let sides : Sides := match (chosen.filter fun c => c == 'H' || c == 'S').getLast? with
    | some 'H' => { soft := false }
    | some _ => { hard := false }
    | none => {}
  let all := chosen.contains 'a'
  let letter := (chosen.filter letters.contains).getLastD 'f'
  match gauges.find? fun g => g.letter == letter with
  | none => pure 0
  | some g =>
    match values with
    | [] =>
      if all then
        gauges.forM fun g => do
          let name := g.name ++ String.ofList (List.replicate (20 - g.name.length) ' ')
          say s!"{name} {g.show sides (← call (.cap g.resource))}"
      else say (g.show sides (← call (.cap g.resource)))
      pure 0
    | value :: more =>
      if all || !more.isEmpty then fail "too many arguments"
      else
        let value ← capValue g value
        let cap ← call (.cap g.resource)
        let cap := { cap with
          soft := if sides.soft then value else cap.soft
          hard := if sides.hard then value else cap.hard }
        match ← call (.setCap g.resource cap) with
        | .ok () => pure 0
        | .error fault => fail s!"error setting limit ({fault.text})"

/-! ## Masks -/

/-- All permissions. -/
def allPermissions : Nat := 0o777

/-- The mask as a list of what it leaves to the owner, to the group and to others. -/
def symbolicMask (mask : Nat) : String :=
  let letters (shift : Nat) : String :=
    let left := (allPermissions ^^^ mask) >>> shift
    String.ofList (([(4, 'r'), (2, 'w'), (1, 'x')].filter fun b => left &&& b.1 ≠ 0).map Prod.snd)
  s!"u={letters 6},g={letters 3},o={letters 0}"

/-- For whom a letter stands, as the lowest bit of the permissions of each. -/
def places? : Char → Option Nat
  | 'a' => some 0o111
  | 'u' => some 0o100
  | 'g' => some 0o010
  | 'o' => some 0o001
  | _ => none

/-- The permissions that a letter stands for, where some are given already. -/
def permissionsOf? (given : Nat) : Char → Option Nat
  | 'r' => some 4
  | 'w' => some 2
  | 'x' => some 1
  | 'u' => some (given >>> 6 &&& 7)
  | 'g' => some (given >>> 3 &&& 7)
  | 'o' => some (given &&& 7)
  | 'X' => some (if given &&& 0o111 ≠ 0 then 1 else 0)
  | 's' => some 0
  | _ => none

/-- The permissions after the changes that a text asks for, for those that letters before have
named; `none` if the text makes no sense. The first argument are the permissions before, the
second those after the changes so far. The number bounds how many changes there are. -/
def changed? (given : Nat) : Nat → Nat → Nat → List Char → Option Nat
  | _, now, _, [] => some now
  | 0, _, _, _ => none
  | bound + 1, now, whom, cs =>
    let names := cs.takeWhile fun c => (places? c).isSome
    let whom := names.foldl (fun w c => w ||| (places? c).getD 0) whom
    let whom := if whom = 0 then 0o111 else whom
    match cs.drop names.length with
    | [] => some now
    | sign :: rest =>
      if sign ≠ '=' ∧ sign ≠ '+' ∧ sign ≠ '-' then none
      else
        let letters := rest.takeWhile fun c => (permissionsOf? given c).isSome
        let bits := letters.foldl (fun b c => b ||| (permissionsOf? given c).getD 0) 0
        let bits := bits * whom
        let now :=
          if sign = '-' then now &&& (allPermissions ^^^ bits)
          else if sign = '+' then now ||| bits
          else bits ||| (now &&& (allPermissions ^^^ (whom * 7)))
        match rest.drop letters.length with
        | [] => some now
        | ',' :: more => changed? given bound now 0 more
        | c :: more =>
          if c = '=' ∨ c = '+' ∨ c = '-' then changed? given bound now whom (c :: more) else none

/-- The command `umask`. -/
def umask : Builtin := fun args => do
  let (chosen, args) ← options "S" args
  let mask ← call (.mask none)
  match args with
  | [] =>
    if chosen.isEmpty then say (String.ofList ((Nat.toDigits 8 mask).leftpad 4 '0'))
    else say (symbolicMask mask)
    pure 0
  | new :: _ =>
    let value ←
      if new.toList.head?.any Char.isDigit then
        match octal? new with
        | some n => pure (n % 512)
        | none => fail s!"Illegal number: {new}"
      else
        let given := allPermissions ^^^ mask
        match changed? given (new.length + 1) given 0 new.toList with
        | some n => pure (allPermissions ^^^ (n &&& allPermissions))
        | none => fail s!"Illegal mode: {new}"
    let _ ← call (.mask (some value))
    pure 0

end Confine.Shell
