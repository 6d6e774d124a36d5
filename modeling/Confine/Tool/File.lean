import Confine.Path
import Confine.Tool.Basic

set_option autoImplicit false

/-! # Tools for files

The tools that list, make, remove, copy and move files and directories, and that change
permissions. -/

namespace Confine.Tool

open Confine.System (Work Status)
open Chore

/-- The path of a name in a directory. -/
def below (directory name : String) : String :=
  if directory.endsWith "/" then directory ++ name else directory ++ "/" ++ name

/-- The last name of a path. -/
def lastName (path : String) : String :=
  ((Path.steps path).getLast?).getD "/"

/-- Whether something of a kind was found. -/
def isKind (kind : System.Kind) : Except Fault Status → Bool
  | .ok status => status.kind == kind
  | .error _ => false

/-- Whether there is a directory at a path. -/
def isDirectory (path : String) : Chore Bool := do
  match ← look path with
  | .ok status => return status.kind == .directory
  | .error _ => return false

/-! ## Permissions -/

/-- The permissions that one change of a list makes of others. The flag tells whether it is about a
directory. -/
def changedBy (mask : Nat) (isDirectory : Bool) (before : Nat) (cs : List Char) : Option Nat :=
  let whom := cs.takeWhile fun c => c == 'u' || c == 'g' || c == 'o' || c == 'a'
  let places := whom.foldl (fun n c => n ||| (match c with
    | 'u' => 0o100
    | 'g' => 0o010
    | 'o' => 0o001
    | _ => 0o111)) 0
  let given := !whom.isEmpty
  let places := if given then places else 0o111
  let bits (c : Char) : Option Nat := match c with
    | 'r' => some 4
    | 'w' => some 2
    | 'x' => some 1
    | 'X' => some (if isDirectory || before &&& 0o111 ≠ 0 then 1 else 0)
    | 's' | 't' => some 0
    | 'u' => some (before >>> 6 &&& 7)
    | 'g' => some (before >>> 3 &&& 7)
    | 'o' => some (before &&& 7)
    | _ => none
  let rec go : Nat → Nat → List Char → Option Nat
    | _, now, [] => some now
    | 0, _, _ => none
    | bound + 1, now, sign :: rest =>
      let letters := rest.takeWhile fun c => (bits c).isSome
      let wanted := (letters.foldl (fun n c => n ||| (bits c).getD 0) 0) * places
      let wanted := if given then wanted else wanted &&& (0o777 ^^^ mask)
      let after := rest.drop letters.length
      if sign = '+' then go bound (now ||| wanted) after
      else if sign = '-' then go bound (now &&& (0o7777 ^^^ wanted)) after
      else if sign = '=' then
        go bound ((now &&& (0o7777 ^^^ (places * 7))) ||| wanted) after
      else none
  let rest := cs.drop whom.length
  if rest.isEmpty then none else go (rest.length + 1) before rest

/-- The permissions that a text makes of others. -/
def permissionsBy (mask : Nat) (isDirectory : Bool) (before : Nat) (text : String) : Option Nat :=
  let cs := text.toList
  if !cs.isEmpty && cs.all fun c => '0' ≤ c && c ≤ '7' then
    let n := cs.foldl (fun n c => n * 8 + (c.toNat - '0'.toNat)) 0
    if n ≤ 0o7777 then some n else none
  else (cs.splitOn ',').foldlM (changedBy mask isDirectory) before

/-! ## Making -/

/-- The permissions with which directories are made. -/
def wholeDirectory : Nat := 0o777

/-- Say that a directory was made, if that is asked for. -/
def sayMade (verbose : Bool) (path : String) : Chore Unit := do
  if verbose then say s!"{← name}: created directory '{path}'"

/-- Make a directory together with those above it that are missing; it gives the path at which this
fails and why. The number bounds how many there are. -/
def makeAll (permissions : Nat) (verbose : Bool) :
    Nat → String → List String → Chore (Option (String × Fault))
  | 0, _, _ => pure none
  | _, _, [] => pure none
  | bound + 1, above, name :: names => do
    let path := if above.isEmpty then name else below above name
    let mode := if names.isEmpty then permissions else wholeDirectory
    match ← call (.makeDirectory (Text.ofOctets path) mode) with
    | .ok () =>
      sayMade verbose path
      makeAll permissions verbose bound path names
    | .error fault =>
      match ← look path with
      | .ok status =>
        if status.kind = .directory then makeAll permissions verbose bound path names
        else return some (path, if names.isEmpty then .exists else .notDirectory)
      | .error _ => return some (path, fault)

/-- The tool `mkdir`. -/
def mkdir : Utility := toWork do
  let p ← parse [⟨'p', false, "parents", false⟩, ⟨'m', true, "mode", false⟩,
    ⟨'v', false, "verbose", false⟩]
  if p.operands.isEmpty then misuse "missing operand"
  let mask ← call (.mask none)
  let permissions ← match p.last? 'm' with
    | none => pure wholeDirectory
    | some m => match permissionsBy mask true wholeDirectory m with
      | some n => pure n
      | none => fail s!"invalid mode '{m}'"
  p.operands.forM fun path => do
    if p.has 'p' then
      let start := if Path.isAbsolute path then "/" else ""
      match ← makeAll permissions (p.has 'v') (path.length + 1) start (Path.steps path) with
      | some (at_, fault) => spoil s!"cannot create directory '{at_}': {fault.text}"
      | none => pure ()
    else
      match ← call (.makeDirectory (Text.ofOctets path) permissions) with
      | .ok () =>
        if p.has 'm' then
          let _ ← call (.permit (Text.ofOctets path) permissions)
        sayMade (p.has 'v') path
      | .error fault => spoil s!"cannot create directory '{path}': {fault.text}"

/-- The tool `truncate`. -/
def truncate : Utility := toWork do
  let p ← parse [⟨'s', true, "size", false⟩, ⟨'c', false, "no-create", false⟩]
  match p.last? 's' with
  | none => misuse "you must specify either '--size' or '--reference'"
  | some text =>
    if p.operands.isEmpty then misuse "missing file operand"
    let size : Nat → Option Nat := fun old =>
      match text.toList with
      | '+' :: rest => (scaled? (String.ofList rest)).map (old + ·)
      | '-' :: rest => (scaled? (String.ofList rest)).map (old - ·)
      | _ => scaled? text
    if (size 0).isNone then fail s!"Invalid number: '{text}'"
    p.operands.forM fun path => do
      let before ← readFrom path
      let octets := match before with
        | .ok (octets, _) => octets
        | .error _ => []
      if before.isOk || !p.has 'c' then
        let n := (size octets.length).getD 0
        let kept := octets.take n ++ List.replicate (n - octets.length) '\x00'
        match ← writeTo path kept with
        | .ok () => pure ()
        | .error fault => spoil s!"cannot open '{path}' for writing: {fault.text}"

/-! ## Removing -/

/-- The tool `rmdir`. -/
def rmdir : Utility := toWork do
  let p ← parse [⟨'p', false, "parents", false⟩, ⟨'v', false, "verbose", false⟩,
    ⟨'i', false, "ignore-fail-on-non-empty", false⟩]
  if p.operands.isEmpty then misuse "missing operand"
  let remove (path : String) : Chore Bool := do
    if p.has 'v' then say s!"{← name}: removing directory, '{path}'"
    match ← call (.removeDirectory (Text.ofOctets path)) with
    | .ok () => pure true
    | .error fault =>
      if !(p.has 'i' && fault == .notEmpty) then
        spoil s!"failed to remove '{path}': {fault.text}"
      pure false
  p.operands.forM fun path => do
    let removed ← remove path
    if removed && p.has 'p' then
      let steps := Path.steps path
      let start := if Path.isAbsolute path then "/" else ""
      let above := ((List.range steps.length).reverse.filter (0 < ·)).map fun n =>
        start ++ "/".intercalate (steps.take n)
      let _ ← above.foldlM (fun (goesOn : Bool) path =>
        if goesOn then remove path else pure false) true

/-- Remove what is at a path and below it. The number bounds how deep it is. -/
def removeTree (verbose : Bool) : Nat → String → Chore Unit
  | 0, _ => pure ()
  | depth + 1, path => do
    let names ← if isKind .directory (← look path false) then namesAt path
      else pure (.error .notDirectory)
    match names with
    | .error _ =>
      match ← call (.remove (Text.ofOctets path)) with
      | .ok () => if verbose then say s!"removed '{path}'"
      | .error fault => spoil s!"cannot remove '{path}': {fault.text}"
    | .ok names =>
      names.forM fun name => removeTree verbose depth (below path name)
      match ← call (.removeDirectory (Text.ofOctets path)) with
      | .ok () => if verbose then say s!"removed directory '{path}'"
      | .error fault => spoil s!"cannot remove '{path}': {fault.text}"

/-- How deep directories are followed. -/
def mostDepth : Nat := 5000

/-- The tool `rm`. -/
def rm : Utility := toWork do
  let p ← parse [⟨'f', false, "force", false⟩, ⟨'r', false, "recursive", false⟩,
    ⟨'R', false, "", false⟩, ⟨'d', false, "dir", false⟩, ⟨'v', false, "verbose", false⟩,
    ⟨'i', false, "", false⟩, ⟨'I', false, "", false⟩]
  let deep := p.has 'r' || p.has 'R'
  let force := p.lastOf? ['f', 'i'] == some 'f'
  if p.operands.isEmpty && !force then misuse "missing operand"
  p.operands.forM fun path => do
    if ["." , ".."].contains (lastName path) && deep then
      spoil s!"refusing to remove '.' or '..' directory: skipping '{path}'"
    else if deep && Path.steps path == [] && path ≠ "" then
      complain s!"it is dangerous to operate recursively on '{path}'"
      spoil "use --no-preserve-root to override this failsafe"
    else
      match ← look path false with
      | .error fault =>
        if !(force && (fault == .notFound || fault == .notDirectory)) then
          spoil s!"cannot remove '{path}': {fault.text}"
      | .ok status =>
        if status.kind = .directory then
          if deep then removeTree (p.has 'v') mostDepth path
          else if p.has 'd' then
            match ← call (.removeDirectory (Text.ofOctets path)) with
            | .ok () => if p.has 'v' then say s!"removed directory '{path}'"
            | .error fault => spoil s!"cannot remove '{path}': {fault.text}"
          else spoil s!"cannot remove '{path}': Is a directory"
        else
          match ← call (.remove (Text.ofOctets path)) with
          | .ok () => if p.has 'v' then say s!"removed '{path}'"
          | .error fault => spoil s!"cannot remove '{path}': {fault.text}"

/-! ## Copying and moving -/

/-- What is asked of a tool that takes files somewhere. -/
structure Carriage where
  /-- The options. -/
  chosen : Parsed
  /-- The files. -/
  sources : List String
  /-- Where they go. -/
  target : String
  /-- Whether they go into the directory there. -/
  inside : Bool

/-- Find out which files go where. -/
def carriage (flags : List Flag) : Chore Carriage := do
  let p ← parse (flags ++ [⟨'t', true, "target-directory", false⟩,
    ⟨'T', false, "no-target-directory", false⟩, ⟨'f', false, "force", false⟩,
    ⟨'i', false, "interactive", false⟩, ⟨'n', false, "no-clobber", false⟩,
    ⟨'v', false, "verbose", false⟩, ⟨'u', false, "update", true⟩])
  match p.last? 't', p.operands with
  | some target, sources =>
    if sources.isEmpty then misuse "missing file operand"
    if ← isDirectory target then pure ⟨p, sources, target, true⟩
    else
      let fault := match ← look target with
        | .ok _ => Fault.notDirectory
        | .error fault => fault
      fail s!"target directory '{target}': {fault.text}"
  | none, [] => misuse "missing file operand"
  | none, [source] => misuse s!"missing destination file operand after '{source}'"
  | none, operands =>
    let target := operands.getLastD ""
    let sources := operands.dropLast
    let inside := !p.has 'T' && (← isDirectory target)
    if p.has 'T' && sources.length > 1 then
      let extra := (operands[2]?).getD ""
      misuse s!"extra operand '{extra}'"
    else if sources.length > 1 && !inside then
      let fault := match ← look target with
        | .ok _ => Fault.notDirectory
        | .error fault => fault
      fail s!"target '{target}': {fault.text}"
    else pure ⟨p, sources, target, inside⟩

/-- The path that a file goes to. -/
def Carriage.goal (c : Carriage) (source : String) : String :=
  if c.inside then below c.target (lastName source) else c.target

/-- Copy a file to a path at which there is no directory. -/
def copyFile (c : Carriage) (permissions : Nat) (source goal : String) : Chore Unit := do
  match ← readFrom source with
  | .error fault => spoil s!"cannot open '{source}' for reading: {fault.text}"
  | .ok (octets, _) =>
    match ← writeTo goal octets permissions with
    | .ok () => if c.chosen.has 'v' then say s!"'{source}' -> '{goal}'"
    | .error .isDirectory =>
      spoil s!"cannot create regular file '{goal}': {Fault.notDirectory.text}"
    | .error fault => spoil s!"cannot create regular file '{goal}': {fault.text}"

/-- Whether what was found is the same as something. -/
def isSame (status : Status) : Except Fault Status → Bool
  | .ok other => other.place == status.place
  | .error _ => false

/-- Whether a path leads to a directory or to something in it. -/
def isWithin (status : Status) (path : String) : Chore Bool := do
  let there ← look path
  let above ← match there with
    | .ok _ => pure there
    | .error _ => look (below path "..")
  let above ← match above with
    | .ok _ => pure above
    | .error _ =>
      let names := (Path.steps path).dropLast
      let start := if Path.isAbsolute path then "/" else "./"
      look (start ++ "/".intercalate names)
  return match above with
    | .ok other => status.place.isPrefixOf other.place
    | .error _ => false

/-- Make a link to a path, in place of what is no directory if that may be. It tells whether that
was possible. -/
def makeLink (replaces : Bool) (target path : String) : Chore (Except Fault Unit) := do
  if replaces && !isKind .directory (← look path false) then
    let _ ← call (.remove (Text.ofOctets path))
  call (.makeLink (Text.ofOctets target) (Text.ofOctets path))

/-- Copy a link. -/
def copyLink (c : Carriage) (source goal : String) : Chore Unit := do
  match ← call (.readLink (Text.ofOctets source)) with
  | .error fault => spoil s!"cannot read symbolic link '{source}': {fault.text}"
  | .ok target =>
    match ← makeLink true (Text.octets target) goal with
    | .ok () => if c.chosen.has 'v' then say s!"'{source}' -> '{goal}'"
    | .error fault => spoil s!"cannot create symbolic link '{goal}': {fault.text}"

/-- Whether links are copied as what they lead to. -/
def Carriage.follows (c : Carriage) (deep : Bool) : Bool :=
  match c.chosen.lastOf? ['P', 'd', 'a', 'L', 'H'] with
  | some 'L' => true
  | some 'P' | some 'd' | some 'a' => false
  | _ => !deep

/-- Copy what is at a path, and what is below it if that is asked for. The number bounds how deep
it is. -/
def copyTree (c : Carriage) (deep : Bool) : Nat → String → String → Chore Unit
  | 0, _, _ => pure ()
  | depth + 1, source, goal => do
    let found ← look source (c.follows deep)
    let there ← look goal
    match found with
    | .error fault => spoil s!"cannot stat '{source}': {fault.text}"
    | .ok status =>
      let isThere := there.isOk
      let thereIsDirectory := isKind .directory there
      let same := isSame status there && status.kind != .device
      if status.kind = .link then copyLink c source goal
      else if status.kind = .directory then
        if !deep then spoil s!"-r not specified; omitting directory '{source}'"
        else if isThere && !thereIsDirectory then
          spoil s!"cannot overwrite non-directory '{goal}' with directory '{source}'"
        else if ← isWithin status goal then
          spoil s!"cannot copy a directory, '{source}', into itself, '{goal}'"
        else
          let names ← namesAt source
          let made ← if isThere then pure (.ok ())
            else call (.makeDirectory (Text.ofOctets goal) status.permissions)
          match made, names with
          | .error fault, _ => spoil s!"cannot create directory '{goal}': {fault.text}"
          | _, .error fault => spoil s!"cannot access '{source}': {fault.text}"
          | .ok (), .ok names =>
            if c.chosen.has 'v' && !isThere then say s!"'{source}' -> '{goal}'"
            names.forM fun name => copyTree c deep depth (below source name) (below goal name)
      else if same then spoil s!"'{source}' and '{goal}' are the same file"
      else if c.chosen.has 'n' && isThere then pure ()
      else if thereIsDirectory then
        spoil s!"cannot overwrite directory '{goal}' with non-directory '{source}'"
      else copyFile c status.permissions source goal

/-- The tool `cp`. -/
def cp : Utility := toWork do
  let c ← carriage [⟨'r', false, "recursive", false⟩, ⟨'R', false, "", false⟩,
    ⟨'a', false, "archive", false⟩, ⟨'p', false, "", false⟩, ⟨'P', false, "", false⟩,
    ⟨'L', false, "", false⟩, ⟨'H', false, "", false⟩, ⟨'d', false, "", false⟩,
    ⟨'x', false, "", false⟩, ⟨'l', false, "", false⟩]
  let deep := c.chosen.has 'r' || c.chosen.has 'R' || c.chosen.has 'a'
  c.sources.forM fun source => copyTree c deep mostDepth source (c.goal source)

/-- The tool `mv`. -/
def mv : Utility := toWork do
  let c ← carriage []
  c.sources.forM fun source => do
    let goal := c.goal source
    let found ← look source false
    let there ← look goal false
    match found with
    | .error fault => spoil s!"cannot stat '{source}': {fault.text}"
    | .ok status =>
      let same := isSame status there
      let thereIsDirectory := isKind .directory there
      if same then
        if status.kind = .directory then
          spoil s!"cannot move '{source}' to a subdirectory of itself, '{goal}'"
        else spoil s!"'{source}' and '{goal}' are the same file"
      else if c.chosen.lastOf? ['n', 'f', 'i'] = some 'n' && there.isOk then pure ()
      else if status.kind = .directory && there.isOk && !thereIsDirectory then
        spoil s!"cannot overwrite non-directory '{goal}' with directory '{source}'"
      else if status.kind ≠ .directory && thereIsDirectory then
        spoil s!"cannot overwrite directory '{goal}' with non-directory '{source}'"
      else
        match ← call (.rename (Text.ofOctets source) (Text.ofOctets goal)) with
        | .ok () => if c.chosen.has 'v' then say s!"renamed '{source}' -> '{goal}'"
        | .error .invalid =>
          spoil s!"cannot move '{source}' to a subdirectory of itself, '{goal}'"
        | .error fault => spoil s!"cannot move '{source}' to '{goal}': {fault.text}"

/-! ## Changing permissions -/

/-- The letters for permissions. -/
def permissionLetters (n : Nat) : String :=
  let isSet (k : Nat) : Bool := n >>> k &&& 1 = 1
  let plain (k : Nat) (c : Char) : Char := if isSet k then c else '-'
  let runs (k special : Nat) (c : Char) : Char :=
    if isSet special then (if isSet k then c else c.toUpper) else plain k 'x'
  String.ofList [plain 8 'r', plain 7 'w', runs 6 11 's', plain 5 'r', plain 4 'w', runs 3 10 's',
    plain 2 'r', plain 1 'w', runs 0 9 't']

/-- Permissions as digits and letters. -/
def permissionText (n : Nat) : String :=
  let digits := Nat.toDigits 8 n
  let digits := String.ofList (List.replicate (4 - digits.length) '0' ++ digits)
  s!"{digits} ({permissionLetters n})"

/-- Change the permissions of what is at a path, and of what is below it if that is asked for. The
number bounds how deep it is; links are followed only at the top. -/
def changeMode (p : Parsed) (text : String) (mask : Nat) :
    Nat → Bool → String → Chore Unit
  | 0, _, _ => pure ()
  | depth + 1, deeper, path => do
    match ← look path deeper with
    | .error fault =>
      if p.has 'f' then leave 1 else spoil s!"cannot access '{path}': {fault.text}"
      if p.has 'v' then say s!"'{path}' could not be accessed"
    | .ok status =>
      let isDirectory := status.kind == .directory
      if status.kind = .link then return ()
      match permissionsBy mask isDirectory status.permissions text with
      | none => pure ()
      | some n =>
        match ← call (.permit (Text.ofOctets path) n) with
        | .ok () =>
          let old := status.permissions
          if n ≠ old then
            if p.has 'v' || p.has 'c' then
              say s!"mode of '{path}' changed from {permissionText old} to {permissionText n}"
          else if p.has 'v' then say s!"mode of '{path}' retained as {permissionText n}"
        | .error fault => spoil s!"changing permissions of '{path}': {fault.text}"
      if p.has 'R' && isDirectory then
        match ← namesAt path with
        | .error fault => spoil s!"cannot read directory '{path}': {fault.text}"
        | .ok names => names.forM fun name => changeMode p text mask depth false (below path name)

/-- The tool `chmod`. -/
def chmod : Utility := toWork do
  let isMode (a : String) : Bool :=
    a.startsWith "-" && a.length > 1 && (a.toList.drop 1).all fun c => "rwxXstugoa+-=,".contains c
  let args := (← get).setting.arguments
  let modes := args.filter isMode
  modify fun b => { b with
    setting := { b.setting with arguments := args.filter fun a => !isMode a } }
  let p ← parse [⟨'R', false, "recursive", false⟩, ⟨'v', false, "verbose", false⟩,
    ⟨'f', false, "silent", false⟩, ⟨'c', false, "changes", false⟩]
  let words := modes.take 1 ++ p.operands
  match words with
  | [] => misuse "missing operand"
  | [mode] => misuse s!"missing operand after '{mode}'"
  | mode :: paths =>
    let mask ← call (.mask none)
    if (permissionsBy mask false 0 mode).isNone then misuse s!"invalid mode: '{mode}'"
    paths.forM (changeMode p mode mask mostDepth true)

/-! ## Listing -/

/-- The mark that tells what kind of thing there is. -/
def kindMark (p : Parsed) (s : Status) : String :=
  if s.kind = .directory then (if p.has 'F' || p.has 'p' then "/" else "")
  else if p.has 'F' && s.kind == .file && s.permissions &&& 0o111 ≠ 0 then "*"
  else if p.has 'F' && s.kind == .pipe then "|"
  else if p.has 'F' && s.kind == .link && !p.has 'l' then "@"
  else ""

/-- The permissions in letters. -/
def modeLetters (s : Status) : String :=
  let kind := match s.kind with
    | .directory => 'd'
    | .device => 'c'
    | .pipe => 'p'
    | .link => 'l'
    | .file => '-'
  kind.toString ++ permissionLetters s.permissions

/-- Things in the order in which they are shown. -/
def ordered (p : Parsed) (things : List (String × Status)) : List (String × Status) :=
  let things := if p.has 'U' || p.has 'f' then things
    else things.mergeSort fun a b => decide (a.1 ≤ b.1)
  let things := if p.has 'S' then
      things.mergeSort fun a b => decide (b.2.size ≤ a.2.size) else things
  let things := if p.has 't' then
      things.mergeSort fun a b => decide (b.2.changed ≤ a.2.changed) else things
  if p.has 'r' then things.reverse else things

/-- The path that a link in a directory leads to, as it is shown. -/
def arrowOf (directory : String) (name : String) (s : Status) : Chore String := do
  if s.kind ≠ .link then pure ""
  else
    let path := if directory.isEmpty then name else below directory name
    match ← call (.readLink (Text.ofOctets path)) with
    | .ok target => pure (" -> " ++ Text.octets target)
    | .error _ => pure ""

/-- Show things in a directory, one on a line or all on one with commas. -/
def showThings (p : Parsed) (directory : String) (things : List (String × Status)) :
    Chore Unit := do
  let names ← things.mapM fun (name, s) => do
    let arrow ← if p.has 'l' then arrowOf directory name s else pure ""
    let start := if p.has 'l' then s!"{modeLetters s} 1 root root {s.size} " else ""
    let blocks := if p.has 's' && !p.has 'l' then s!"{(s.size + 4095) / 4096 * 4} " else ""
    let quoted := if p.has 'Q' then s!"\"{name}\"" else name
    pure (blocks ++ start ++ quoted ++ kindMark p s ++ arrow)
  if p.has 'm' then
    if !names.isEmpty then say (", ".intercalate names)
  else names.forM say

/-- Show what is in a directory, and in those below it if that is asked for. The number bounds how
deep it is. -/
def showDirectory (p : Parsed) (withName : Bool) : Nat → Bool → String → Chore Unit
  | 0, _, _ => pure ()
  | depth + 1, isFirst, path => do
    match ← namesAt path with
    | .error fault => spoil s!"cannot open directory '{path}': {fault.text}" 2
    | .ok names =>
      let all := p.has 'a' || p.has 'f'
      let names := if all then "." :: ".." :: names
        else if p.has 'A' then names else names.filter fun name => !name.startsWith "."
      if withName then
        if !isFirst then say ""
        say (path ++ ":")
      let things ← names.filterMapM fun name => do
        match ← look (below path name) (p.has 'L') with
        | .ok status => pure (some (name, status))
        | .error _ => pure none
      let things := ordered p things
      if p.has 'l' then say "total 0"
      showThings p path things
      if p.has 'R' then
        let inner := things.filter fun (name, s) =>
          s.kind == .directory && name ≠ "." && name ≠ ".."
        inner.forM fun (name, _) => showDirectory p withName depth false (below path name)

/-- The tool `ls`. -/
def ls : Utility := toWork do
  let flag (c : Char) : Flag := ⟨c, false, "", false⟩
  let p ← parse (("1CGghiklmnopqrstucxFfLNQRSUXZ".toList.map flag) ++
    [⟨'a', false, "all", false⟩, ⟨'A', false, "almost-all", false⟩,
      ⟨'d', false, "directory", false⟩, ⟨'w', true, "width", false⟩,
      ⟨'I', true, "ignore", false⟩, ⟨'K', false, "color", true⟩]) false 2
  let paths := if p.operands.isEmpty then ["."] else p.operands
  let things ← paths.filterMapM fun path => do
    let follows := !(p.has 'l' || p.has 'd' || p.has 'F')
    let found ← look path follows
    let found ← if found.isOk then pure found else look path false
    match found with
    | .ok status => pure (some (path, status))
    | .error fault =>
      spoil s!"cannot access '{path}': {fault.text}" 2
      pure none
  let isListed (s : Status) : Bool := s.kind == .directory && !p.has 'd'
  let things := ordered p things
  let files := things.filter fun t => !isListed t.2
  let directories := things.filter fun t => isListed t.2
  showThings p "" files
  let withName := 1 < paths.length || p.has 'R'
  let _ ← directories.foldlM (fun (isFirst : Bool) (t : String × Status) => do
    showDirectory p withName mostDepth isFirst t.1
    pure false) files.isEmpty

end Confine.Tool
