import Confine.System.Access

set_option autoImplicit false

/-! # Requests about paths

Looking at what is at a path, and making, removing and moving it. Whoever still has a removed file
open keeps what was in it. -/

namespace Confine.System

/-- The system after the files were changed as a process sees them. -/
def withView (s : System) (result : Except Fault FileTree) : Except Fault Unit × System :=
  match result with
  | .ok t => (.ok (), { s with files := { t with current := s.files.current } })
  | .error fault => (.error fault, s)

/-- What is told about a node at a place. -/
def statusOf (s : System) (place : List String) (node : FileTree.Node) : Status :=
  let changed := s.timeAt place
  match node with
  | .file permissions bytes => ⟨.file, permissions, bytes.length, place, changed⟩
  | .directory permissions _ => ⟨.directory, permissions, 4096, place, changed⟩
  | .device _ => ⟨.device, 0o666, 0, place, changed⟩
  | .link target => ⟨.link, 0o777, target.utf8ByteSize, place, changed⟩

/-- What is told about what a channel is about. -/
def statusOfChannel (s : System) : Channel → Except Fault Status
  | .file place | .directory place =>
    match s.files.at? place with
    | some node => .ok (s.statusOf place node)
    | none => .error .notFound
  | .orphan bytes => .ok ⟨.file, 0, bytes.length, [], s.now⟩
  | .device d => .ok (s.statusOf [] (.device d))
  | .pipe n => .ok ⟨.pipe, 0o600, 0, [toString n], s.now⟩
  | .output _ => .ok ⟨.pipe, 0o600, 0, [], s.now⟩

/-- What is told about what is at a path. -/
def lookAt (s : System) (p : Process) (path : String) (whole : Bool) : Except Fault Status :=
  match (s.view p).locate path whole with
  | .error fault => .error fault
  | .ok (_, none) => .error .notFound
  | .ok (_, some (.device (.descriptor n))) =>
    match s.description? p n with
    | none => .error .notFound
    | some d => s.statusOfChannel d.channel
  | .ok (place, some node) => .ok (s.statusOf place node)

/-- The path that a link leads to. -/
def linkAt (s : System) (p : Process) (path : String) : Except Fault String :=
  match (s.view p).locate path false with
  | .error fault => .error fault
  | .ok (_, none) => .error .notFound
  | .ok (_, some (.link target)) => .ok target
  | .ok (_, some _) => .error .invalid

/-- Make something at a path where nothing is. -/
def makeAt (s : System) (p : Process) (path : String) (node : FileTree.Node) :
    Except Fault Unit × System :=
  match (s.view p).locate path false with
  | .error fault => (.error fault, s)
  | .ok (_, some _) => (.error .exists, s)
  | .ok (place, none) =>
    if FileTree.isSealed place then (.error .notFound, s)
    else
      (.ok (), ({ s with files := s.files.put place node }.renamedIn place).changedNow place)

/-- Say when what is at a path was changed. -/
def setTimeAt (s : System) (p : Process) (path : String) (time : Int) :
    Except Fault Unit × System :=
  match (s.view p).locate path with
  | .error fault => (.error fault, s)
  | .ok (_, none) => (.error .notFound, s)
  | .ok (place, some _) => (.ok (), s.changedAt place time)

/-- The names in a directory. -/
def namesAt (s : System) (p : Process) (path : String) : Except Fault (List String) :=
  match (s.view p).locate path with
  | .error fault => .error fault
  | .ok (_, some (.directory _ entries)) => .ok (entries.map Prod.fst)
  | .ok (_, some _) => .error .notDirectory
  | .ok (_, none) => .error .notFound

/-- The system after the file at a place was detached from it. -/
def detach (s : System) (place : List String) : System :=
  let bytes := s.bytesAt place
  let detached (d : Description) : Description :=
    if d.channel = .file place then { d with channel := .orphan bytes } else d
  { s with
    files := s.files.takeAway place
    descriptions := s.descriptions.map detached
    times := s.times.filter fun t => t.1 ≠ place }

/-- Remove what is no directory. -/
def removeAt (s : System) (p : Process) (path : String) : Except Fault Unit × System :=
  match (s.view p).locate path false with
  | .error fault => (.error fault, s)
  | .ok (_, none) => (.error .notFound, s)
  | .ok (_, some (.directory _ _)) => (.error .isDirectory, s)
  | .ok (place, some _) => (.ok (), (s.detach place).renamedIn place)

/-- Remove an empty directory. -/
def removeDirectoryAt (s : System) (p : Process) (path : String) : Except Fault Unit × System :=
  match (s.view p).locate path false with
  | .error fault => (.error fault, s)
  | .ok (_, none) => (.error .notFound, s)
  | .ok (place, some (.directory _ [])) =>
    if (Path.steps path).getLast? = some "." then (.error .invalid, s)
    else (.ok (), (s.detach place).renamedIn place)
  | .ok (_, some (.directory _ _)) => (.error .notEmpty, s)
  | .ok (_, some _) => (.error .notDirectory, s)

/-- The place that a place has become after something was moved. -/
def movedPlace (source target place : List String) : List String :=
  if source.isPrefixOf place then target ++ place.drop source.length else place

/-- The system after what is at a place was moved to another one. -/
def move (s : System) (source target : List String) (node : FileTree.Node) : System :=
  let s := s.detach target
  let moved := movedPlace source target
  let channel : Channel → Channel
    | .file place => .file (moved place)
    | .directory place => .directory (moved place)
    | other => other
  let s := (s.renamedIn source).renamedIn target
  { s with
    files := (s.files.takeAway source).put target node
    times := s.times.map fun t => (moved t.1, t.2)
    descriptions := s.descriptions.map fun d => { d with channel := channel d.channel }
    processes := s.processes.map fun p => { p with directory := moved p.directory } }

/-- Give something another path. A directory can only take the place of an empty one, and cannot
go below itself. -/
def renameAt (s : System) (p : Process) (source target : String) : Except Fault Unit × System :=
  match (s.view p).locate source false, (s.view p).locate target false with
  | .error fault, _ | _, .error fault => (.error fault, s)
  | .ok (_, none), _ => (.error .notFound, s)
  | .ok (place, some node), .ok (goal, there) =>
    if place = goal then (.ok (), s)
    else if place.isPrefixOf goal ∨ place.isEmpty ∨ goal.isEmpty then (.error .invalid, s)
    else
      match node, there with
      | .directory _ _, none | .directory _ _, some (.directory _ []) =>
        (.ok (), s.move place goal node)
      | .directory _ _, some (.directory _ _) => (.error .notEmpty, s)
      | .directory _ _, some _ => (.error .notDirectory, s)
      | _, some (.directory _ _) => (.error .isDirectory, s)
      | _, _ =>
        if there.isNone ∧ Path.endsWithSlash target then (.error .notDirectory, s)
        else (.ok (), s.move place goal node)

/-- Have another current directory. -/
def changeDirectoryTo (s : System) (p : Process) (path : String) : Except Fault Unit × System :=
  match (s.view p).locate path with
  | .error fault => (.error fault, s)
  | .ok (place, some (.directory _ _)) =>
    (.ok (), s.update p.pid fun p => { p with directory := place })
  | .ok (_, none) => (.error .notFound, s)
  | .ok (_, some _) => (.error .notDirectory, s)

end Confine.System
