set_option autoImplicit false

/-! # Faults

Why the system refuses a request. Each fault that the system itself names has a number and a
text, and both belong to what a reader is told. -/

namespace Confine

/-- Why a request to the system is refused. -/
inductive Fault where
  /-- Nobody may do this. -/
  | notPermitted
  /-- There is nothing at the path. -/
  | notFound
  /-- There is no such process. -/
  | noProcess
  /-- A signal came first. -/
  | interrupted
  /-- There is no device behind the path. -/
  | noDevice
  /-- The file is no program. -/
  | badFormat
  /-- The descriptor leads nowhere. -/
  | badDescriptor
  /-- There is no child to wait for. -/
  | noChild
  /-- There is no room for another process. -/
  | unavailable
  /-- The permissions do not allow this. -/
  | denied
  /-- There is something at the path already. -/
  | exists
  /-- Something that is no directory is used as one. -/
  | notDirectory
  /-- A directory is used as a file. -/
  | isDirectory
  /-- The request makes no sense. -/
  | invalid
  /-- All descriptors are in use. -/
  | tooManyFiles
  /-- The file is larger than any may be. -/
  | tooLarge
  /-- The device is full. -/
  | noSpace
  /-- Nobody reads at the other end. -/
  | brokenPipe
  /-- A name, or a path as a whole, is too long. -/
  | nameTooLong
  /-- A directory is not empty. -/
  | notEmpty
  /-- Too many files lead to one another. -/
  | tooManyLinks
  /-- The bytes of a file are not those of a text. -/
  | notText
  /-- A path holds the character that ends strings. -/
  | nulInPath
  deriving DecidableEq, Repr

namespace Fault

/-- The number of a fault, if the system has one for it. -/
def number? : Fault → Option Nat
  | .notPermitted => some 1
  | .notFound => some 2
  | .noProcess => some 3
  | .interrupted => some 4
  | .noDevice => some 6
  | .badFormat => some 8
  | .badDescriptor => some 9
  | .noChild => some 10
  | .unavailable => some 11
  | .denied => some 13
  | .exists => some 17
  | .notDirectory => some 20
  | .isDirectory => some 21
  | .invalid => some 22
  | .tooManyFiles => some 24
  | .tooLarge => some 27
  | .noSpace => some 28
  | .brokenPipe => some 32
  | .nameTooLong => some 36
  | .notEmpty => some 39
  | .tooManyLinks => some 40
  | .notText | .nulInPath => none

/-- The text of a fault. -/
def text : Fault → String
  | .notPermitted => "Operation not permitted"
  | .notFound => "No such file or directory"
  | .noProcess => "No such process"
  | .interrupted => "Interrupted system call"
  | .noDevice => "No such device or address"
  | .badFormat => "Exec format error"
  | .badDescriptor => "Bad file descriptor"
  | .noChild => "No child processes"
  | .unavailable => "Resource temporarily unavailable"
  | .denied => "Permission denied"
  | .exists => "File exists"
  | .notDirectory => "Not a directory"
  | .isDirectory => "Is a directory"
  | .invalid => "Invalid argument"
  | .tooManyFiles => "Too many open files"
  | .tooLarge => "File too large"
  | .noSpace => "No space left on device"
  | .brokenPipe => "Broken pipe"
  | .nameTooLong => "File name too long"
  | .notEmpty => "Directory not empty"
  | .tooManyLinks => "Too many levels of symbolic links"
  | .notText => "stream did not contain valid UTF-8"
  | .nulInPath => "file name contained an unexpected NUL byte"

/-- The wording of a fault: its text, and its number if it has one. -/
def message (f : Fault) : String :=
  match f.number? with
  | some n => s!"{f.text} (os error {n})"
  | none => f.text

end Fault

end Confine
