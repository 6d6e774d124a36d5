set_option autoImplicit false

/-! # Programs of awk

What a program is made of: rules that do something with the records that fit them, and functions.
Names, texts and expressions are texts of octets. -/

namespace Confine.Tool.Awk

/-- What is computed from two numbers. -/
inductive Operation where
  /-- Their sum. -/
  | sum
  /-- Their difference. -/
  | difference
  /-- Their product. -/
  | product
  /-- Their quotient. -/
  | quotient
  /-- What division leaves. -/
  | remainder
  /-- A power. -/
  | power
  deriving DecidableEq, Repr

/-- How two values are compared. -/
inductive Comparison where
  /-- The first is smaller. -/
  | less
  /-- The first is not larger. -/
  | atMost
  /-- They are equal. -/
  | equal
  /-- They are not equal. -/
  | different
  /-- The first is larger. -/
  | more
  /-- The first is not smaller. -/
  | atLeast
  deriving DecidableEq, Repr

mutual

/-- An expression. -/
inductive Expr where
  /-- A number. -/
  | number (x : Float)
  /-- A text. -/
  | text (cs : List Char)
  /-- A regular expression. By itself it asks whether the record fits it. -/
  | pattern (cs : List Char)
  /-- What a place holds. -/
  | place (p : Place)
  /-- A value given to a place, or computed from the one there. -/
  | assign (p : Place) (op : Option Operation) (value : Expr)
  /-- One more or one less in a place, before or after its value is taken. -/
  | step (p : Place) (isUp isFirst : Bool)
  /-- A number computed from two. -/
  | compute (op : Operation) (a b : Expr)
  /-- Whether two values compare in a way. -/
  | compare (how : Comparison) (a b : Expr)
  /-- Whether a text fits a regular expression, or does not. -/
  | fits (isNegated : Bool) (a b : Expr)
  /-- One text after another. -/
  | join (a b : Expr)
  /-- A number, or its opposite. -/
  | signed (isNegative : Bool) (e : Expr)
  /-- Whether something is not so. -/
  | no (e : Expr)
  /-- Whether two things are so. -/
  | both (a b : Expr)
  /-- Whether one of two things is so. -/
  | any (a b : Expr)
  /-- One of two values. -/
  | choose (condition a b : Expr)
  /-- Whether an array has an item. -/
  | has (keys : List Expr) (array : String)
  /-- An expression in parentheses. -/
  | group (e : Expr)
  /-- What a function of the program gives. -/
  | invoke (function : String) (args : List Expr)
  /-- What a function that is always there gives. -/
  | builtin (name : String) (args : List Expr)
  /-- A record that is read, into a place if one is given. -/
  | take (source : Source) (target : Option Place)

/-- Where a value can be kept. -/
inductive Place where
  /-- A variable. -/
  | named (name : String)
  /-- A field of the record. -/
  | field (number : Expr)
  /-- An item of an array. -/
  | item (array : String) (keys : List Expr)

/-- Where a record is taken from. -/
inductive Source where
  /-- The files that the program works on. -/
  | input
  /-- A file. -/
  | file (path : Expr)
  /-- What a command writes. -/
  | command (text : Expr)

end

instance : Inhabited Expr := ⟨.text []⟩

/-- Where something is printed. -/
inductive Sink where
  /-- To a file from its start on. -/
  | file
  /-- To the end of a file. -/
  | fileEnd
  /-- To a command. -/
  | command
  deriving DecidableEq, Repr

/-- A statement. -/
inductive Statement where
  /-- Statements one after another. -/
  | block (inner : List Statement)
  /-- An expression. -/
  | expr (e : Expr)
  /-- Print values, with a format if the flag says so. -/
  | print (hasFormat : Bool) (args : List Expr) (out : Option (Sink × Expr))
  /-- Do one of two things. -/
  | choose (condition : Expr) (yes : Statement) (no : Option Statement)
  /-- Do something as long as something is so, and something more each time. -/
  | loop (condition : Option Expr) (body : Statement) (step : Option Statement)
  /-- Do something, and again as long as something is so. -/
  | loopOnce (body : Statement) (condition : Expr)
  /-- Do something for every key of an array. -/
  | each (name array : String) (body : Statement)
  /-- Go on with the next record. -/
  | next
  /-- Go on with the next file. -/
  | nextFile
  /-- End. -/
  | exit (status : Option Expr)
  /-- Return from a function. -/
  | give (value : Option Expr)
  /-- Leave a loop. -/
  | leave
  /-- Begin a loop again. -/
  | again
  /-- Remove an item, or all items. -/
  | delete (array : String) (keys : Option (List Expr))
  deriving Inhabited

/-- Which records a rule is for. -/
inductive Condition where
  /-- None: it is carried out before they are read. -/
  | first
  /-- None: it is carried out after they are read. -/
  | last
  /-- All. -/
  | always
  /-- Those for which something is so. -/
  | when (e : Expr)
  /-- Those from one for which something is so up to one for which something else is so. -/
  | between (a b : Expr)

/-- A rule. -/
structure Rule where
  /-- Which records it is for. -/
  condition : Condition
  /-- What is done; the record is printed if nothing is said. -/
  action : Option Statement

/-- A function. -/
structure Function where
  /-- The names of its arguments, and of the variables of its own. -/
  parameters : List String
  /-- What it does. -/
  body : Statement

/-- A program. -/
structure Program where
  /-- Its rules, in order. -/
  rules : List Rule := []
  /-- Its functions. -/
  functions : List (String × Function) := []

end Confine.Tool.Awk
