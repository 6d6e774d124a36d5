set_option autoImplicit false

/-! # Paths

A path is a text: names with slashes between them. `Path.steps` are the names in it, `join` puts
a name under a directory and `parent?` takes the last name off. Doubled slashes, slashes at the
end and dots for "here" mean nothing, except for a dot in front. -/

namespace Confine.Path

/-- Cut a text at slashes. -/
def cut : List Char → List (List Char)
  | [] => [[]]
  | c :: rest =>
    if c = '/' then [] :: cut rest
    else
      match cut rest with
      | [] => [[c]]
      | name :: names => (c :: name) :: names

/-- Whether a path starts at the root. -/
def isAbsolute (path : String) : Bool :=
  path.toList.head? == some '/'

/-- The names between the slashes. -/
def steps (path : String) : List String :=
  ((cut path.toList).filter fun name => !name.isEmpty).map String.ofList

/-- Whether a path ends with a slash, and so can only mean a directory. -/
def endsWithSlash (path : String) : Bool :=
  path.toList.getLast? == some '/'

/-- The path of a name under a directory. -/
def join (directory name : String) : String :=
  if directory.isEmpty || endsWithSlash directory then directory ++ name
  else directory ++ "/" ++ name

/-- The names in a path that mean something: a dot does so only in front of a relative path. -/
def significant (path : String) : List String :=
  match steps path with
  | [] => []
  | first :: rest =>
    if first == "." && !isAbsolute path then first :: rest.filter (· ≠ ".")
    else (first :: rest).filter (· ≠ ".")

/-- The path without its last name. Nothing is above the root, and nothing above no path. -/
def parent? (path : String) : Option String :=
  let names := significant path
  if names.isEmpty then none
  else
    let rest := "/".intercalate names.dropLast
    some (if isAbsolute path then "/" ++ rest else rest)

end Confine.Path
