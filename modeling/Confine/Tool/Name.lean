import Confine.Path
import Confine.Tool.File

set_option autoImplicit false

/-! # Tools for names

The tools that take paths apart, make them whole, or tell names: of the directory, of the user, of
the system. -/

namespace Confine.Tool

open Chore

/-- A path without the slashes at its end, save that one of them stays if there is nothing else. -/
def withoutSlashes (path : String) : String :=
  let cs := path.toList
  let kept := (cs.reverse.dropWhile (· == '/')).reverse
  if kept.isEmpty ∧ !cs.isEmpty then "/" else String.ofList kept

/-- The last part of a path, without an ending if it has one and more than that. -/
def baseOf (path ending : String) : String :=
  let whole := withoutSlashes path
  if whole = "/" then whole
  else
    let name := whole.toList.reverse.takeWhile (· ≠ '/')
    let tail := ending.toList.reverse
    if tail.isPrefixOf name ∧ tail.length < name.length then
      String.ofList (name.drop tail.length).reverse
    else String.ofList name.reverse

/-- What is written after each name. -/
def ender (p : Parsed) : List Char :=
  if p.has 'z' then ['\x00'] else ['\n']

/-- The tool `basename`. -/
def basename : Utility := toWork do
  let p ← parse [⟨'a', false, "multiple", false⟩, ⟨'s', true, "suffix", false⟩,
    ⟨'z', false, "zero", false⟩] true
  let write (path ending : String) : Chore Unit :=
    put ((baseOf path ending).toList ++ ender p)
  if p.operands.isEmpty then misuse "missing operand"
  else if p.has 'a' || p.has 's' then
    p.operands.forM fun path => write path ((p.last? 's').getD "")
  else
    match p.operands with
    | [path] => write path ""
    | [path, ending] => write path ending
    | _ :: _ :: extra :: _ => misuse s!"extra operand '{extra}'"
    | [] => pure ()

/-- The part of a path in front of its last name. -/
def directoryOf (path : String) : String :=
  let whole := withoutSlashes path
  let above := whole.toList.reverse.dropWhile (· ≠ '/')
  if whole = "/" then whole
  else if above.isEmpty then "."
  else withoutSlashes (String.ofList above.reverse)

/-- The tool `dirname`. -/
def dirname : Utility := toWork do
  let p ← parse [⟨'z', false, "zero", false⟩] true
  if p.operands.isEmpty then misuse "missing operand"
  p.operands.forM fun path => put ((directoryOf path).toList ++ ender p)

/-- The tool `pwd`. -/
def pwd : Utility := toWork do
  let p ← parse [⟨'L', false, "logical", false⟩, ⟨'P', false, "physical", false⟩]
  let here := Text.octets (← call .directory)
  let known := ((← get).setting.vars.lookup "PWD").getD ""
  if p.lastOf? ['L', 'P'] = some 'L' ∧ known.startsWith "/" then
    let there ← look known
    let here' ← look "."
    match there, here' with
    | .ok a, .ok b => say (if a.place = b.place then known else here)
    | _, _ => say here
  else say here

/-- The path from the root to what a path leads to; the last name need not be there unless that is
asked for. -/
def wholePath (mustExist : Bool) (path : String) : Chore (Except Fault String) := do
  match ← look path with
  | .ok status => return .ok ("/" ++ "/".intercalate (status.place.map Text.octets))
  | .error fault =>
    if mustExist || fault ≠ .notFound then return .error fault
    else
      match ← look (directoryOf path) with
      | .ok status =>
        let place := status.place.map Text.octets ++ [baseOf path ""]
        return .ok ("/" ++ "/".intercalate place)
      | .error fault => return .error fault

/-- The tool `realpath`. -/
def realpath : Utility := toWork do
  let p ← parse [⟨'e', false, "canonicalize-existing", false⟩,
    ⟨'m', false, "canonicalize-missing", false⟩, ⟨'q', false, "quiet", false⟩,
    ⟨'s', false, "no-symlinks", false⟩, ⟨'L', false, "logical", false⟩,
    ⟨'P', false, "physical", false⟩, ⟨'z', false, "zero", false⟩]
  if p.operands.isEmpty then misuse "missing operand"
  p.operands.forM fun path => do
    match ← wholePath (p.has 'e') path with
    | .ok whole => put (whole.toList ++ ender p)
    | .error fault =>
      if p.has 'q' then leave 1 else spoil s!"{path}: {fault.text}"

/-- The tool `readlink`. -/
def readlink : Utility := toWork do
  let p ← parse [⟨'f', false, "canonicalize", false⟩, ⟨'e', false, "canonicalize-existing", false⟩,
    ⟨'m', false, "canonicalize-missing", false⟩, ⟨'n', false, "no-newline", false⟩,
    ⟨'q', false, "quiet", false⟩, ⟨'s', false, "silent", false⟩,
    ⟨'v', false, "verbose", false⟩, ⟨'z', false, "zero", false⟩]
  if p.operands.isEmpty then misuse "missing operand"
  p.operands.forM fun path => do
    if (p.lastOf? ['f', 'e', 'm']).isNone then
      match ← call (.readLink (Text.ofOctets path)) with
      | .ok target => put ((Text.octets target).toList ++ if p.has 'n' then [] else ender p)
      | .error fault => if p.has 'v' then spoil s!"{path}: {fault.text}" else leave 1
    else
      match ← wholePath (p.has 'e') path with
      | .ok whole => put (whole.toList ++ if p.has 'n' then [] else ender p)
      | .error _ => leave 1

/-- A tool that says one thing and takes no arguments. -/
def saying (line : String) : Utility := toWork do
  let p ← parse []
  match p.operands with
  | extra :: _ => misuse s!"extra operand '{extra}'"
  | [] => say line

/-- The tool `whoami`. -/
def whoami : Utility := saying "root"

/-- The tool `nproc`. -/
def nproc : Utility := saying "4"

/-- The tool `tty`, where there is no terminal. -/
def tty : Utility := toWork do
  let p ← parse [⟨'s', false, "silent", false⟩]
  if !p.has 's' then say "not a tty"
  leave 1

/-- The tool `id`. -/
def identity : Utility := toWork do
  let flag (c : Char) (name : String) : Flag := ⟨c, false, name, false⟩
  let p ← parse [flag 'u' "user", flag 'g' "group", flag 'G' "groups", flag 'n' "name",
    flag 'r' "real", flag 'z' "zero"]
  if p.has 'u' || p.has 'g' || p.has 'G' then say (if p.has 'n' then "root" else "0")
  else if p.has 'n' || p.has 'r' then
    fail "printing only names or real IDs requires -u, -g, or -G"
  else say "uid=0(root) gid=0(root) groups=0(root)"

/-- The tool `uname`. -/
def uname : Utility := toWork do
  let flag (c : Char) (name : String) : Flag := ⟨c, false, name, false⟩
  let p ← parse [flag 's' "kernel-name", flag 'n' "nodename", flag 'r' "kernel-release",
    flag 'm' "machine", flag 'o' "operating-system", flag 'a' "all"]
  let usual := p.chosen.isEmpty
  let part (c : Char) (text : String) : List String :=
    if p.has c || p.has 'a' then [text] else []
  let parts := (if usual then ["Linux"] else part 's' "Linux") ++ part 'n' "localhost" ++
    part 'r' "6.1.0" ++ part 'm' "x86_64" ++ part 'o' "GNU/Linux"
  say (" ".intercalate parts)

/-- The letters of names that are made up. -/
def madeUp (n : Nat) (length : Nat) : String :=
  let digits := Nat.toDigits 26 n
  let letters := digits.map fun c => Char.ofNat ('a'.toNat + (c.toNat - '0'.toNat))
  String.ofList (List.replicate (length - letters.length) 'a' ++ letters)

/-- Make something with a name that is made up, at the first such name that is free. The number
bounds how many are tried. -/
def makeNew (make : String → Chore (Except Fault Unit)) (start ending : String) (length : Nat) :
    Nat → Nat → Chore (Except Fault String)
  | 0, _ => pure (.error .exists)
  | tries + 1, n => do
    let path := start ++ madeUp n length ++ ending
    match ← make path with
    | .ok () => pure (.ok path)
    | .error .exists => makeNew make start ending length tries (n + 1)
    | .error fault => pure (.error fault)

/-- The tool `mktemp`. -/
def mktemp : Utility := toWork do
  let p ← parse [⟨'d', false, "directory", false⟩, ⟨'u', false, "dry-run", false⟩,
    ⟨'q', false, "quiet", false⟩, ⟨'t', false, "", false⟩, ⟨'p', true, "tmpdir", true⟩,
    ⟨'s', true, "suffix", false⟩]
  let isGiven := !p.operands.isEmpty
  let template := p.operands.headD "tmp.XXXXXXXXXX"
  let marks := (template.toList.reverse.dropWhile (· ≠ 'X')).takeWhile (· == 'X')
  let cs := template.toList
  let tail := (cs.reverse.takeWhile (· ≠ 'X')).reverse
  let start := cs.take (cs.length - tail.length - marks.length)
  if marks.length < 3 then fail s!"too few X's in template '{template}'"
  let temporary := ((← get).setting.vars.lookup "TMPDIR").getD "/tmp"
  let directory := if isGiven && !p.has 't' && !p.has 'p' then ""
    else (p.last? 'p').getD temporary ++ "/"
  let make (path : String) : Chore (Except Fault Unit) := do
    if p.has 'u' then
      return match ← look path with
        | .ok _ => .error .exists
        | .error _ => .ok ()
    else if p.has 'd' then call (.makeDirectory (Text.ofOctets path) 0o700)
    else
      let how : System.Opening := { reads := true, writes := true, creates := true, isNew := true }
      match ← openAt path how 0o600 with
      | .ok n =>
        close n
        pure (.ok ())
      | .error fault => pure (.error fault)
  let self ← call .self
  let ending := String.ofList tail ++ (p.last? 's').getD ""
  match ← makeNew make (directory ++ String.ofList start) ending marks.length 1000 self with
  | .ok path => say path
  | .error fault =>
    let what := if p.has 'd' then "directory" else "file"
    fail s!"failed to create {what} via template '{directory ++ template}': {fault.text}"

end Confine.Tool
