set_option autoImplicit false

/-! # The machine that runs loaded code

Loading and calling code needs five things of the host, and `Machine` holds just these: the
name of its architecture, the size of a page, its answers to the two requests for memory, and what
a piece of code returns when it is called. A machine is the host as one operation finds it: the
rest of the library takes it as an argument of the operation, so the next operation may find
another, which refuses what this one grants. A `Call` is everything that called code can see: a
count and a table of zero-terminated strings, closed by a null entry. -/

namespace Confine

/-- What a piece of code is called with. -/
structure Machine.Call where
  /-- The number of arguments. -/
  argc : Int32
  /-- The table of arguments. An entry is the bytes of a string with its terminating zero, or
  `none` for the null entry. -/
  argv : List (Option (List UInt8))
  deriving DecidableEq, Repr

namespace Machine.Call

/-- The bytes of a string and the zero that ends them. -/
def terminated (s : String) : List UInt8 :=
  s.toUTF8.toList ++ [0]

/-- The call with these arguments, in order. -/
def ofArguments (args : List String) : Call where
  argc := Int32.ofNat args.length
  argv := args.map (fun s => some (terminated s)) ++ [none]

end Machine.Call

/-- The host, as far as loading and calling code depends on it. A request that is refused is
answered with the host's reason. -/
structure Machine where
  /-- The name of the host's architecture. -/
  architecture : String
  /-- The size of a page in bytes. -/
  pageSize : UInt64
  /-- The answer to a request for a writable mapping of this many bytes. -/
  map : UInt64 → Except String Unit
  /-- The answer to a request to make a mapping of this many bytes executable. -/
  protect : UInt64 → Except String Unit
  /-- What the code with these bytes returns for a call. -/
  run : List UInt8 → Machine.Call → Int32

namespace Machine

/-- The length rounded up to whole pages, or nothing if the sum on the way does not fit in 64
bits. -/
def roundUp (m : Machine) (len : UInt64) : Option UInt64 :=
  let reach := len.toNat + (m.pageSize - 1).toNat
  if reach < UInt64.size then some (UInt64.ofNat reach / m.pageSize * m.pageSize) else none

end Machine

end Confine
