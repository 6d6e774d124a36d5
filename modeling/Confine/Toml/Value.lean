set_option autoImplicit false

/-! # TOML values

A document is a table of values. Every table remembers how it came to be, because that decides
who may still add to it: a table with a header of its own is closed to dotted keys, an inline
table is closed to everyone, and a table that exists only because something lies below it may
still be given a header. -/

namespace Confine.Toml

/-- How a table came to be. -/
inductive Origin where
  /-- It has a header, or it is the document. -/
  | header
  /-- A header named a table below it. -/
  | implied
  /-- A dotted key named a value below it. -/
  | dotted
  /-- It is written between braces. -/
  | inline
  deriving DecidableEq, Repr

/-- A value. -/
inductive Value where
  /-- A text. -/
  | string (s : String)
  /-- A whole number. -/
  | integer (n : Int)
  /-- Any other number. Only whether it is within the range of double precision is kept. -/
  | real (inRange : Bool)
  /-- A truth value. -/
  | boolean (b : Bool)
  /-- A date, a time of day, or both. -/
  | moment
  /-- A sequence of values. -/
  | array (items : List Value)
  /-- Named values. -/
  | table (origin : Origin) (entries : List (String × Value))
  /-- Tables under one header written several times, in order. -/
  | tables (items : List (List (String × Value)))
  deriving Inhabited

/-- Named values, in the order in which their names first appear. -/
abbrev Entries := List (String × Value)

namespace Entries

/-- The entries with the value of an existing name replaced. -/
def replace (name : String) (value : Value) (es : Entries) : Entries :=
  es.map fun e => if e.1 == name then (name, value) else e

/-- The entries with one more at the end. -/
def add (name : String) (value : Value) (es : Entries) : Entries :=
  es ++ [(name, value)]

/-- Change the table at a path below the given one, and create what is missing on the way. A
path passes through tables and through the latest of tables under one header. An inline table
is closed, and a table with a header is closed to dotted keys. -/
def alter (dotted : Bool) (change : Origin → Entries → Option Entries) :
    List String → Origin → Entries → Option Entries
  | [], origin, es => change origin es
  | name :: path, _, es =>
    match es.lookup name with
    | none => do
      let origin := if dotted then Origin.dotted else .implied
      let inner ← alter dotted change path origin []
      some (es.add name (.table origin inner))
    | some (.table origin inner) =>
      if origin = .inline ∨ (dotted ∧ origin = .header) then none
      else do
        let inner ← alter dotted change path origin inner
        some (es.replace name (.table origin inner))
    | some (.tables items) => do
      let inner ← alter dotted change path .header (items.getLastD [])
      some (es.replace name (.tables (items.dropLast ++ [inner])))
    | some _ => none

/-- Change the table that the latest header has opened. -/
def within (change : Entries → Option Entries) : List String → Entries → Option Entries
  | [], es => change es
  | name :: path, es =>
    match es.lookup name with
    | some (.table origin inner) => do
      let inner ← within change path inner
      some (es.replace name (.table origin inner))
    | some (.tables items) => do
      let inner ← within change path (items.getLastD [])
      some (es.replace name (.tables (items.dropLast ++ [inner])))
    | _ => none

/-- Give a value to a dotted key: the last name under the table that the others lead to. That
table has to be the given one itself or one that dotted keys have made, and the name has to be
new. -/
def insert (path : List String) (name : String) (value : Value) (origin : Origin)
    (es : Entries) : Option Entries :=
  let change (origin : Origin) (es : Entries) : Option Entries :=
    if (origin == .dotted) == path.isEmpty || (es.lookup name).isSome then none
    else some (es.add name value)
  alter true change path origin es

/-- Open a table under a header. There must be none with that name, unless it was implied. -/
def openTable (path : List String) (name : String) (es : Entries) : Option Entries :=
  let change (_ : Origin) (es : Entries) : Option Entries :=
    match es.lookup name with
    | none => some (es.add name (.table .header []))
    | some (.table .implied inner) => some (es.replace name (.table .header inner))
    | some _ => none
  alter false change path .header es

/-- Open one more table under a repeated header. -/
def openNext (path : List String) (name : String) (es : Entries) : Option Entries :=
  let change (_ : Origin) (es : Entries) : Option Entries :=
    match es.lookup name with
    | none => some (es.add name (.tables [[]]))
    | some (.tables items) => some (es.replace name (.tables (items ++ [[]])))
    | some _ => none
  alter false change path .header es

end Entries

end Confine.Toml
