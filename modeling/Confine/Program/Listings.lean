import Confine.Code.Block
import Confine.Program.Act

set_option autoImplicit false

/-! # Commands on listings and code

Decoding and encoding listings, calling code, and reading instructions. None of these needs a
sandbox: code runs in the program itself. -/

namespace Confine.Program

open Act

/-- The name of the only backend. -/
def backendName : String := "native"

/-- A listing of bytes on a line, without the blank at its end. -/
def listingLine (listing : String) : String :=
  String.ofList (Text.trimEnd listing.toList)

/-- Decode a listing, and show its bytes as a listing or write them to a file. -/
def decodeListing (listing : String) (output : Option String) : Act Unit := do
  let bytes ← attempt (Code.decode listing)
  match output with
  | some path =>
    writeFile ("Failed to write " ++ path) path bytes
    print s!"Wrote {bytes.length} bytes to {path}"
  | none =>
    print (listingLine (Hex.encode bytes))
    notice s!"{bytes.length} bytes"

/-- Show the bytes of a file as a listing. -/
def encodeFile (file : String) : Act Unit := do
  let bytes ← look ("Failed to read " ++ file) fun files => files.readBytes file
  print (listingLine (Hex.encode bytes))

/-- Load the code of a listing and call it, and give what it returns. Code for another
architecture than the machine's is loaded and not called. -/
def runCode (m : Machine) (listing : String) (args : List String)
    (architecture : Option String) (dump : Bool) : Act Int32 := do
  let architecture := architecture.getD m.architecture
  let block ← attempt (Code.Block.assemble m architecture backendName listing)
  if dump then
    let text ← attempt block.dump
    print (listingLine text)
  if architecture = m.architecture then attempt (block.execute m (some args))
  else fail s!"Refusing to execute {architecture} code on a {m.architecture} host"

/-- Read instructions from a file and try to assemble them. -/
def assembleFile (m : Machine) (file : String) (architecture : Option String) :
    Act Unit := do
  let text ← look ("Failed to read " ++ file) fun files => files.readText file
  let stream := Code.Stream.parse (architecture.getD m.architecture) text
  print s!"Parsed {stream.instructions.length} {stream.architecture} instructions"
  note (stream.instructions.map .parsed)
  let assembled := attempt (Code.Block.assembleStream stream backendName)
  let _ ← within ("Cannot assemble " ++ file) assembled

end Confine.Program
