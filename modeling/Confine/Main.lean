import Confine.Machine.Amd64
import Confine.Program.Run

set_option autoImplicit false

/-! # The program

The outermost layer: it reads from the real file system the part that a run may look at, lets
the run work on that, and writes back what has changed. All decisions are made by
`Program.run`. -/

namespace Confine.Main

/-- The variables that a run looks at or passes on. -/
def variableNames : List String :=
  [ "HOME", "PATH", "PWD", "RUST_LOG", "EXECBOX_CONFIG", "EXECBOX_CONFIG_DIR",
    "EXECBOX_STATE_DIR", "XDG_CONFIG_HOME", "XDG_STATE_HOME" ]

/-- The variables that are set. -/
def readVariables : IO Environment :=
  variableNames.filterMapM fun name => do
    return (← IO.getEnv name).map fun value => (name, value)

/-- The place that a path leads to, with the dots in it followed. -/
def placeOf (current : List String) (path : String) : List String :=
  (Path.steps path).foldl
    (fun place name =>
      if name = "." then place else if name = ".." then place.dropLast else place ++ [name])
    (if Path.isAbsolute path then [] else current)

/-- The absolute path of a place. -/
def pathOf (place : List String) : String :=
  "/" ++ "/".intercalate place

/-- Read what is at a place, if there is anything. -/
def readPlace (t : FileTree) (place : List String) : IO FileTree := do
  let path := (← IO.currentDir) / pathOf place
  if (t.at? place).isSome then return t
  else if ← path.isDir then return t.put place (.directory FileTree.newDirectory [])
  else if ← path.pathExists then
    return t.put place (.file FileTree.newFile (← IO.FS.readBinFile path).toList)
  else return t

/-- Read what is at a path and at the places above it. -/
def readPath (t : FileTree) (path : String) : IO FileTree := do
  let place := placeOf t.current path
  (List.range (place.length + 1)).foldlM
    (fun t n => if n = 0 then pure t else readPlace t (place.take n)) t

/-- The paths that a command line may lead to: the program's own and all that its items may
name. -/
def candidates (s : Program.Surroundings) (items : List String) : List String :=
  let own := match Location.resolve? s.env s.env s.knownHome with
    | none => []
    | some l => [l.configFile, l.logFile]
  let attached (item : String) : String := String.ofList ((item.toList.dropWhile (· ≠ '=')).drop 1)
  let fallback := (s.env.lookup "EXECBOX_CONFIG").toList
  (own ++ fallback ++ items ++ items.map attached).filter fun path =>
    !path.isEmpty && !path.contains '\n'

/-- Whether a file has the same bytes as before, or a directory was there before. -/
def isAsBefore (before : FileTree) (place : List String) : FileTree.Node → Bool
  | .file _ bytes =>
    match before.at? place with
    | some (.file _ known) => known == bytes
    | _ => false
  | .directory _ _ =>
    match before.at? place with
    | some (.directory _ _) => true
    | _ => false
  | .device _ | .link _ => true

/-- Write what is at a place, if it has changed. -/
def writePlace (before : FileTree) (place : List String) (node : FileTree.Node) : IO Unit := do
  if isAsBefore before place node then return
  let path := (← IO.currentDir) / pathOf place
  match node with
  | .directory permissions _ =>
    IO.FS.createDirAll path
    if permissions = 0o700 then
      IO.setAccessRights path { user := { read := true, write := true, execution := true } }
  | .file _ bytes =>
    IO.FS.createDirAll ((← IO.currentDir) / pathOf place.dropLast)
    IO.FS.writeBinFile path (ByteArray.mk bytes.toArray)
  | .device _ | .link _ => return

/-- Write bytes to a stream. -/
def writeTo (stream : IO.FS.Stream) (bytes : List UInt8) : IO Unit := do
  stream.write (ByteArray.mk bytes.toArray)
  stream.flush

end Confine.Main

open Confine in
/-- Run the program with the items of its command line. -/
def main (items : List String) : IO UInt32 := do
  let s : Program.Surroundings := {
    machine := Machine.Amd64.host, env := ← Main.readVariables, knownHome := none }
  let start : FileTree :=
    { Userland.files with current := Path.steps (← IO.currentDir).toString }
  let here ← Main.readPath start (Main.pathOf start.current)
  let files ← (Main.candidates s items).foldlM Main.readPath here
  let outcome := Program.run s files items
  outcome.files.nodes.forM fun (place, node) => Main.writePlace files place node
  Main.writeTo (← IO.getStdout) outcome.output
  Main.writeTo (← IO.getStderr) outcome.errors
  return outcome.status.getD 255
