import Confine.System.Place

set_option autoImplicit false

/-! # Answering requests

What the system does for a process that makes a request. -/

namespace Confine.System

/-- The answer that a request has together with the system after it. -/
def Outcome.of {α : Type} (result : α × System) : Outcome α :=
  .answered result.1 result.2

/-- Wait for a child to end. A child that has ended is told about once. -/
def waitFor (s : System) (p : Process) (pid : Option Nat) (how : Patience) :
    Outcome (Except Fault (Option (Nat × ExitReport))) :=
  let children := s.processes.filter fun q => q.parent == p.pid && pid.all (· == q.pid)
  let finished := children.findSome? fun q => q.ended.map fun report => (q.pid, report)
  match finished with
  | some (child, report) =>
    let rest := s.processes.filter fun q => q.pid ≠ child
    .answered (.ok (some (child, report))) { s with processes := rest }
  | none =>
    if children.isEmpty then .answered (.error .noChild) s
    else if how = .none then .answered (.ok none) s
    else if how = .untilSignal ∧ p.pending ≠ [] then .answered (.error .interrupted) s
    else .blocked s

/-- Sleep for some milliseconds. -/
def sleepFor (s : System) (p : Process) (milliseconds : Nat) : Outcome Unit :=
  match p.wakes with
  | none =>
    if milliseconds = 0 then .answered () s
    else .blocked (s.update p.pid fun p => { p with wakes := some (s.now + milliseconds) })
  | some time =>
    if time ≤ s.now then .answered () (s.update p.pid fun p => { p with wakes := none })
    else .blocked s

/-- Change a limit of a process. No limit can be raised above the hard one, and there is a most
for open files. -/
def setCapFor (s : System) (p : Process) (r : Resource) (cap : Cap) : Except Fault Unit × System :=
  let above (a b : Option Nat) : Bool := match a, b with
    | _, none => false
    | none, some _ => true
    | some m, some n => decide (n < m)
  if above cap.soft cap.hard then (.error .invalid, s)
  else if above cap.hard (p.cap r).hard ∨ (r = .files ∧ above cap.hard (some mostFiles)) then
    (.error .notPermitted, s)
  else (.ok (), s.update p.pid fun p => p.withCap r cap)

/-- The bytes with which the file of a program starts. The name of the program follows. -/
def imageMark : List UInt8 := [0x7f, 0x45, 0x4c, 0x46]

/-- The bytes with which a text starts that another program is to read. -/
def scriptMark : List UInt8 := [0x23, 0x21]

/-- The program that reads a text and an argument for it, as the first line of the text names
them. -/
def readerOf (bytes : List UInt8) : List String :=
  let line := (bytes.drop scriptMark.length).takeWhile (· ≠ 10)
  let isBlank (b : UInt8) : Bool := b == 32 || b == 9
  let line := ((line.dropWhile isBlank).reverse.dropWhile isBlank).reverse
  let reader := line.takeWhile fun b => !isBlank b
  let argument := (line.drop reader.length).dropWhile isBlank
  let text (bs : List UInt8) : String := (Text.ofBytes? bs).getD ""
  if argument.isEmpty then [text reader] else [text reader, text argument]

/-- The program in the file at a path. A text names a program that reads it; the number bounds how
many such texts may follow one another. -/
def imageAt (s : System) (p : Process) : Nat → String → Except Fault Image
  | 0, _ => .error .tooManyLinks
  | depth + 1, path =>
    match (s.view p).locate path with
    | .error fault => .error fault
    | .ok (_, none) => .error .notFound
    | .ok (_, some (.file permissions bytes)) =>
      if permissions &&& 0o111 = 0 then .error .denied
      else if imageMark.isPrefixOf bytes then
        .ok { program := (Text.ofBytes? (bytes.drop imageMark.length)).getD "" }
      else if scriptMark.isPrefixOf bytes then
        match readerOf bytes with
        | [] => .error .badFormat
        | reader :: argument => do
          let image ← imageAt s p depth reader
          let front := if image.front.isEmpty then [reader] else image.front
          .ok { image with front := front ++ argument ++ [path] }
      else .error .badFormat
    | .ok (_, some _) => .error .denied

/-- Become the program in a file. -/
def becomeFor (s : System) (p : Process) (path : String) : Except Fault Image × System :=
  let changed (p : Process) : Process :=
    { p with
      slots := p.slots.filter fun slot => !slot.closes
      dispositions := p.dispositions.filter fun d => d.2 == .ignored
      pending := [] }
  match s.imageAt p 5 path with
  | .ok image => (.ok image, (s.update p.pid changed).collect)
  | .error fault => (.error fault, s)

/-- Work on for ever. A limit on processor time ends this when it is used up. -/
def spinFor (s : System) (p : Process) : System :=
  if p.spins then s
  else
    let wakes := (p.cap .cpuTime).soft.map fun seconds => s.now + 1000 * seconds
    s.update p.pid fun p => { p with spins := true, wakes }

/-- Answer a request of a process. -/
def perform (s : System) (p : Process) : (c : Call) → Outcome c.Answer
  | .read descriptor count => s.readFor p descriptor count
  | .write descriptor bytes => s.writeFor p descriptor bytes
  | .goBack descriptor count => .answered () (s.goBackFor p descriptor count)
  | .openFile path how permissions => .of (s.openAt p path how permissions)
  | .close descriptor =>
    if p.slots.any fun slot => slot.descriptor == descriptor then
      .answered (.ok ()) (s.closeFor p.pid descriptor)
    else .answered (.error .badDescriptor) s
  | .duplicate descriptor least closes => .of (s.duplicateFor p descriptor least closes)
  | .replace descriptor target => .of (s.replaceFor p descriptor target)
  | .pipe => .of (s.openPipe p)
  | .wait pid how => s.waitFor p pid how
  | .signal pid n => .of (s.send pid n)
  | .handle n how =>
    .answered (p.disposition n) (s.update p.pid fun p => p.withDisposition n how)
  | .caught => .answered p.pending (s.update p.pid fun p => { p with pending := [] })
  | .sleep milliseconds => s.sleepFor p milliseconds
  | .clock => .answered s.now s
  | .directory => .answered ("/" ++ "/".intercalate p.directory) s
  | .changeDirectory path => .of (s.changeDirectoryTo p path)
  | .mask new =>
    .answered p.mask (s.update p.pid fun p => { p with mask := new.getD p.mask })
  | .cap r => .answered (p.cap r) s
  | .setCap r cap => .of (s.setCapFor p r cap)
  | .look path whole => .answered (s.lookAt p path whole) s
  | .readLink path => .answered (s.linkAt p path) s
  | .makeLink target path => .of (s.makeAt p path (.link target))
  | .setTime path time => .of (s.setTimeAt p path time)
  | .list path => .answered (s.namesAt p path) s
  | .makeDirectory path permissions =>
    .of (s.makeAt p path (.directory (permissions &&& (0o7777 ^^^ p.mask)) []))
  | .removeDirectory path => .of (s.removeDirectoryAt p path)
  | .remove path => .of (s.removeAt p path)
  | .rename source target => .of (s.renameAt p source target)
  | .permit path permissions => .of (s.withView ((s.view p).setPermissions path permissions))
  | .self => .answered p.pid s
  | .parent => .answered (if p.parent = 0 then 1 else p.parent) s
  | .become path => .of (s.becomeFor p path)
  | .spin => .blocked (s.spinFor p)

end Confine.System
