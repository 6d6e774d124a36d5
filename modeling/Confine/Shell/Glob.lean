import Confine.Shell.Act
import Confine.Shell.Pattern

set_option autoImplicit false

/-! # Names that match

A field that is a pattern stands for the paths that match it, in order, or for itself if there are
none. Each part of the pattern between slashes is matched against the names in a directory. Names
that start with a dot are matched only by a pattern that does so too. -/

namespace Confine.Shell

open Act

/-- The text of a pattern. -/
def patternText (p : List PatternChar) : String :=
  String.ofList (p.map Prod.fst)

/-- The names in a directory that match a pattern. -/
def namesIn (directory : String) (p : List PatternChar) : Act (List String) := do
  let path := if directory.isEmpty then "." else directory
  match ← namesAt path with
  | .error _ => pure []
  | .ok names =>
    let showsDots := p.head?.any fun a => a.1 == '.'
    return ("." :: ".." :: names).filter fun name =>
      (showsDots || !name.startsWith ".") && patternMatches p name.toList

/-- The paths that match a pattern after the path of a directory. The number bounds how many parts
the pattern has. -/
def matching : Nat → String → List PatternChar → Act (List String)
  | 0, _, _ => pure []
  | bound + 1, directory, p => do
    let part := p.takeWhile fun a => a.1 ≠ '/'
    let below := p.drop part.length
    if isPattern part then
      let names ← namesIn directory part
      if below.isEmpty then return names.map (directory ++ ·)
      else
        let found ← names.mapM fun name => matching bound (directory ++ name ++ "/") (below.drop 1)
        return found.flatten
    else
      let path := directory ++ patternText part
      if below.isEmpty then
        match ← look path with
        | .ok _ => pure [path]
        | .error _ => pure []
      else matching bound (path ++ "/") (below.drop 1)

/-- What a field stands for. -/
def globbed (field : List PatternChar) : Act (List String) := do
  let itself := patternText field
  if isPattern field && !(← get).has 'f' then
    match ← matching (field.length + 1) "" field with
    | [] => pure [itself]
    | paths => pure (paths.mergeSort fun a b => decide (a ≤ b))
  else pure [itself]

end Confine.Shell
