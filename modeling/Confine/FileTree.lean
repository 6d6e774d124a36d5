import Confine.Fault
import Confine.Path
import Confine.Text.Utf8

set_option autoImplicit false

/-! # File trees

A tree of directories and files; the root is always there. Paths are followed one name at a
time, so that "up" leads to the directory above the one reached, and a path that leads through a
file or through nothing is refused with the fault that says so. Links stand for other paths. Some
places hold devices, which take what is written to them and give what they like. -/

namespace Confine

/-- Something at a place that is neither a file nor a directory. -/
inductive FileTree.Device where
  /-- It swallows everything and holds nothing. -/
  | null
  /-- It swallows everything and holds zeros without end. -/
  | zero
  /-- It has no room for anything and holds zeros without end. -/
  | full
  /-- It is what a descriptor of the process that asks leads to. -/
  | descriptor (n : Nat)
  /-- It is the terminal, and there is none. -/
  | terminal
  deriving DecidableEq, Repr

/-- What can be at a place. -/
inductive FileTree.Node where
  /-- A file with its permissions and its bytes. -/
  | file (permissions : Nat) (bytes : List UInt8)
  /-- A directory with its permissions and what is in it. -/
  | directory (permissions : Nat) (entries : List (String × FileTree.Node))
  /-- A device. -/
  | device (d : FileTree.Device)
  /-- A link to a path. -/
  | link (target : String)
  deriving Inhabited

/-- What is in a directory, by its names. -/
abbrev FileTree.Entries := List (String × FileTree.Node)

/-- Directories and files. A place is the list of names that lead to it from the root. -/
structure FileTree where
  /-- What is in the root directory. -/
  root : FileTree.Entries := []
  /-- The place where relative paths start. -/
  current : List String := []

namespace FileTree

/-! ## Entries -/

namespace Entries

/-- The entries with a name given another meaning, or with a new name. -/
def set (es : Entries) (name : String) (node : Node) : Entries :=
  if (es.lookup name).isSome then es.map fun e => if e.1 == name then (name, node) else e
  else es ++ [(name, node)]

/-- The entries without a name. -/
def remove (es : Entries) (name : String) : Entries :=
  es.filter fun e => e.1 ≠ name

/-- What is at a place below. -/
def at? (es : Entries) : List String → Option Node
  | [] => none
  | [name] => es.lookup name
  | name :: names =>
    match es.lookup name with
    | some (.directory _ inner) => at? inner names
    | _ => none

/-- The entries with something put at a place below, whose directories are there. -/
def put (es : Entries) : List String → Node → Entries
  | [], _ => es
  | [name], node => es.set name node
  | name :: names, node =>
    match es.lookup name with
    | some (.directory permissions inner) =>
      es.set name (.directory permissions (put inner names node))
    | _ => es

/-- The entries without what is at a place below. -/
def takeAway (es : Entries) : List String → Entries
  | [] => es
  | [name] => es.remove name
  | name :: names =>
    match es.lookup name with
    | some (.directory permissions inner) =>
      es.set name (.directory permissions (takeAway inner names))
    | _ => es

end Entries

/-! ## Places -/

/-- What is at a place. -/
def at? (t : FileTree) (place : List String) : Option Node :=
  if place.isEmpty then some (.directory 0o755 t.root) else t.root.at? place

/-- The tree with something put at a place. -/
def put (t : FileTree) (place : List String) (node : Node) : FileTree :=
  { t with root := t.root.put place node }

/-- The tree without what is at a place. -/
def takeAway (t : FileTree) (place : List String) : FileTree :=
  { t with root := t.root.takeAway place }

/-- How many bytes a name may have. -/
def maxName : Nat := 255

/-- How many bytes a path may have. -/
def maxPath : Nat := 4095

/-- How many links are followed on one path. -/
def maxLinks : Nat := 40

/-- Follow names from a place. Every name but the last has to lead to a directory. A link is left
to `onward`, together with the names after it; the last name is followed as a link only if the
whole way is to be gone. -/
def followBy (t : FileTree)
    (onward : List String → List String → Except Fault (List String)) (whole : Bool) :
    List String → List String → Except Fault (List String)
  | place, [] => .ok place
  | place, name :: names =>
    match t.at? place with
    | none => .error .notFound
    | some (.directory _ entries) =>
      if name = "." then t.followBy onward whole place names
      else if name = ".." then t.followBy onward whole place.dropLast names
      else if name.utf8ByteSize > maxName then .error .nameTooLong
      else
        match entries.lookup name with
        | some (.link target) =>
          if names.isEmpty && !whole then .ok (place ++ [name])
          else onward (if Path.isAbsolute target then [] else place) (Path.steps target ++ names)
        | _ => t.followBy onward whole (place ++ [name]) names
    | some _ => .error .notDirectory

/-- Follow names from a place, and links as long as there are not too many. -/
def follow (t : FileTree) (whole : Bool) :
    Nat → List String → List String → Except Fault (List String)
  | 0 => t.followBy (fun _ _ => .error .tooManyLinks) whole
  | links + 1 => t.followBy (t.follow whole links) whole

/-- The place that a path leads to and what is there. A path with a slash at its end leads to
nothing but a directory. A link at the end is followed unless what is there itself is asked for. -/
def locate (t : FileTree) (path : String) (whole : Bool := true) :
    Except Fault (List String × Option Node) :=
  if path.toList.contains '\x00' then .error .nulInPath
  else if path.isEmpty then .error .notFound
  else if path.utf8ByteSize > maxPath then .error .nameTooLong
  else
    let start := if Path.isAbsolute path then [] else t.current
    match t.follow (whole || Path.endsWithSlash path) maxLinks start (Path.steps path) with
    | .error fault => .error fault
    | .ok place =>
      match t.at? place with
      | none => .ok (place, none)
      | some (.directory permissions entries) => .ok (place, some (.directory permissions entries))
      | some node =>
        if Path.endsWithSlash path then .error .notDirectory else .ok (place, some node)

/-- Whether there is anything at a path. -/
def exists? (t : FileTree) (path : String) : Bool :=
  match t.locate path with
  | .ok (_, some _) => true
  | _ => false

/-- Whether there is a directory at a path. -/
def isDirectory (t : FileTree) (path : String) : Bool :=
  match t.locate path with
  | .ok (_, some (.directory _ _)) => true
  | _ => false

/-- Whether nothing can be created at a place, since the system itself fills the directory. -/
def isSealed (place : List String) : Bool :=
  place.head? == some "proc"

/-! ## Files -/

/-- The bytes of a file. Devices have none. -/
def readBytes (t : FileTree) (path : String) : Except Fault (List UInt8) :=
  match t.locate path with
  | .error fault => .error fault
  | .ok (_, none) => .error .notFound
  | .ok (_, some (.directory _ _)) => .error .isDirectory
  | .ok (_, some (.device .terminal)) => .error .noDevice
  | .ok (_, some (.device _)) => .ok []
  | .ok (_, some (.link _)) => .error .notFound
  | .ok (_, some (.file _ bytes)) => .ok bytes

/-- The text in a file. -/
def readText (t : FileTree) (path : String) : Except Fault String :=
  match t.readBytes path with
  | .error fault => .error fault
  | .ok bytes =>
    match Text.ofBytes? bytes with
    | none => .error .notText
    | some text => .ok text

/-- The permissions of a new file. -/
def newFile : Nat := 0o644

/-- The permissions of a new directory. -/
def newDirectory : Nat := 0o755

/-- What can be written to. -/
inductive Target where
  /-- A file at a place, with its permissions and the bytes that it holds so far. -/
  | file (place : List String) (permissions : Nat) (bytes : List UInt8)
  /-- A device. -/
  | device (d : Device)

/-- What a path leads to for a writer. A file that is not there can be created unless the path
ends with a slash. -/
def target (t : FileTree) (path : String) : Except Fault Target :=
  match t.locate path with
  | .error fault => .error fault
  | .ok (place, some (.file permissions bytes)) => .ok (.file place permissions bytes)
  | .ok (_, some (.directory _ _)) => .error .isDirectory
  | .ok (_, some (.device .terminal)) => .error .noDevice
  | .ok (_, some (.device d)) => .ok (.device d)
  | .ok (_, some (.link _)) => .error .notFound
  | .ok (place, none) =>
    if Path.endsWithSlash path then .error .isDirectory
    else if isSealed place then .error .notFound
    else .ok (.file place newFile [])

/-- The tree after something was written to a device, which never changes it. -/
def writeDevice (t : FileTree) (d : Device) (bytes : List UInt8) : Except Fault FileTree :=
  if d = .full ∧ bytes ≠ [] then .error .noSpace else .ok t

/-- The tree with a file that holds these bytes, in place of any file before. -/
def write (t : FileTree) (path : String) (bytes : List UInt8) : Except Fault FileTree :=
  match t.target path with
  | .error fault => .error fault
  | .ok (.file place permissions _) => .ok (t.put place (.file permissions bytes))
  | .ok (.device d) => t.writeDevice d bytes

/-- The tree with these bytes added at the end of a file, which is created if need be. -/
def append (t : FileTree) (path : String) (bytes : List UInt8) : Except Fault FileTree :=
  match t.target path with
  | .error fault => .error fault
  | .ok (.file place permissions before) => .ok (t.put place (.file permissions (before ++ bytes)))
  | .ok (.device d) => t.writeDevice d bytes

/-! ## Directories -/

/-- The tree with a new directory. -/
def makeDirectory (t : FileTree) (path : String) (permissions : Nat := newDirectory) :
    Except Fault FileTree :=
  match t.locate path false with
  | .error fault => .error fault
  | .ok (_, some _) => .error .exists
  | .ok (place, none) =>
    if isSealed place then .error .notFound else .ok (t.put place (.directory permissions []))

/-- Create the directory at a path, or be content with one that is there. -/
def ensureDirectory (t : FileTree) (path : String) : Except Fault FileTree :=
  match t.makeDirectory path with
  | .ok t => .ok t
  | .error fault => if t.isDirectory path then .ok t else .error fault

/-- Create a directory together with those above it that are missing, from the top down. The
number bounds how many directories above are tried. -/
def makeDirectoriesFrom (t : FileTree) : Nat → String → Except Fault FileTree
  | 0, path => t.ensureDirectory path
  | levels + 1, path =>
    if path.isEmpty then .ok t
    else
      match t.ensureDirectory path with
      | .error .notFound =>
        match Path.parent? path with
        | none => .error .notFound
        | some above => do (← t.makeDirectoriesFrom levels above).ensureDirectory path
      | outcome => outcome

/-- Create a directory together with those above it that are missing. -/
def makeDirectories (t : FileTree) (path : String) : Except Fault FileTree :=
  t.makeDirectoriesFrom (path.length + 1) path

/-- The tree with the permissions of a file or a directory changed. -/
def setPermissions (t : FileTree) (path : String) (permissions : Nat) : Except Fault FileTree :=
  match t.locate path with
  | .error fault => .error fault
  | .ok (_, none) => .error .notFound
  | .ok (place, some (.directory _ entries)) => .ok (t.put place (.directory permissions entries))
  | .ok (place, some (.file _ bytes)) => .ok (t.put place (.file permissions bytes))
  | .ok (_, some _) => .ok t

/-- The permissions of the directory at a path. -/
def permissions? (t : FileTree) (path : String) : Option Nat :=
  match t.locate path with
  | .ok (_, some (.directory permissions _)) => some permissions
  | _ => none

/-! ## Whole trees -/

mutual

/-- What is at a place and below it, with the places. -/
def Node.listed (place : List String) : Node → List (List String × Node)
  | .directory permissions entries =>
    (place, .directory permissions entries) :: Entries.listed place entries
  | node => [(place, node)]

/-- What is in a directory at a place and below it, with the places. -/
def Entries.listed (place : List String) : List (String × Node) → List (List String × Node)
  | [] => []
  | (name, node) :: rest => Node.listed (place ++ [name]) node ++ Entries.listed place rest

end

/-- Everything in the tree with its places, the root left out. -/
def nodes (t : FileTree) : List (List String × Node) :=
  Entries.listed [] t.root

end FileTree

end Confine
