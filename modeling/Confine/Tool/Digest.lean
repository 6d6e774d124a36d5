import Confine.Text.Digest
import Confine.Tool.Basic

set_option autoImplicit false

/-! # Tools for digests

`md5sum` and its like show digests of files, or check those that a list names, and `cksum` shows
remainders. -/

namespace Confine.Tool

open Confine.Text
open Chore

/-- Read a line of a list of digests: a digest and the path of a file. -/
def digestLine? (length : Nat) (line : List Char) : Option (String × String) :=
  let digest := line.take length
  let rest := line.drop length
  if digest.length = length ∧ digest.all (fun c => c.isDigit || ('a' ≤ c.toLower && c.toLower ≤ 'f'))
      ∧ rest.head? = some ' ' ∧ 2 < rest.length then
    some (String.ofList (digest.map Char.toLower), String.ofList (rest.drop 2))
  else none

/-- Check the digests in a list. -/
def checkList (digest : List UInt8 → List UInt8) (p : Parsed) (path : String) : Chore Unit := do
  match ← readOrSpoil path with
  | none => pure ()
  | some octets =>
    let length := 2 * (digest []).length
    let found := (bareLines octets).filterMap (digestLine? length)
    if found.isEmpty then
      spoil s!"{path}: no properly formatted checksum lines found"
    else
      let results ← found.mapM fun (wanted, file) => do
        match ← readFrom file with
        | .ok (octets, none) =>
          let good := Digest.hexadecimal (digest (toBytes octets)) == wanted
          let word := if good then "OK" else "FAILED"
          if !(p.has 's' || (good && p.has 'q')) then say s!"{file}: {word}"
          pure (some good)
        | .ok (_, some fault) | .error fault =>
          complain s!"{file}: {fault.text}"
          if !p.has 's' then say s!"{file}: FAILED open or read"
          pure none
      let unread := (results.filter (· == none)).length
      let wrong := (results.filter (· == some false)).length
      let plural (n : Nat) (one many : String) : String := if n = 1 then one else many
      if 0 < unread then
        let words := plural unread "listed file" "listed files"
        spoil s!"WARNING: {unread} {words} could not be read"
      if 0 < wrong then
        let words := plural wrong "computed checksum" "computed checksums"
        if !p.has 's' then complain s!"WARNING: {wrong} {words} did NOT match"
        leave 1

/-- A tool that shows digests. -/
def digesting (digest : List UInt8 → List UInt8) : Utility := toWork do
  let flag (c : Char) (name : String) : Flag := ⟨c, false, name, false⟩
  let p ← parse [flag 'b' "binary", flag 't' "text", flag 'c' "check", flag 'z' "zero",
    flag 'q' "quiet", flag 's' "status", flag 'w' "warn", flag 'g' "tag"]
  let paths := if p.operands.isEmpty then ["-"] else p.operands
  if p.has 'c' then paths.forM (checkList digest p)
  else
    paths.forM fun path => do
      match ← readOrSpoil path with
      | none => pure ()
      | some octets =>
        let sign := if p.lastOf? ['b', 't'] == some 'b' then "*" else " "
        put ((Digest.hexadecimal (digest (toBytes octets)) ++ " " ++ sign ++ path).toList ++
          if p.has 'z' then ['\x00'] else ['\n'])

/-- The tool `cksum`. -/
def cksum : Utility := toWork do
  let p ← parse []
  if p.operands.isEmpty then
    let octets := (← readOrSpoil "-").getD []
    say s!"{Digest.remainder (toBytes octets)} {octets.length}"
  else
    p.operands.forM fun path => do
      match ← readOrSpoil path with
      | none => pure ()
      | some octets => say s!"{Digest.remainder (toBytes octets)} {octets.length} {path}"

end Confine.Tool
