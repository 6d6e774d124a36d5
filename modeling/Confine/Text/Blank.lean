set_option autoImplicit false

/-! # Blanks, lines and words

How a text is cut up: `isBlank` is the White_Space property, `trim` removes blanks at both
ends, `takeBytes` and `dropBytes` cut where a number of bytes ends, `lines` cuts at newlines and
`words` at runs of blanks. All of them work on lists of
characters, so that a law about them is an induction on the list. -/

namespace Confine.Text

/-! ## Blanks -/

/-- The Unicode property White_Space. It holds the line separators U+0085, U+2028 and U+2029
and the fixed-width spaces, and neither the zero-width characters nor U+001C to U+001F. -/
def isBlank (c : Char) : Bool :=
  let n := c.toNat
  (0x09 ≤ n && n ≤ 0x0d) || n == 0x20 || n == 0x85 || n == 0xa0 || n == 0x1680 ||
    (0x2000 ≤ n && n ≤ 0x200a) || n == 0x2028 || n == 0x2029 || n == 0x202f ||
    n == 0x205f || n == 0x3000

/-- The text without the blanks that it starts with. -/
def trimStart (cs : List Char) : List Char :=
  cs.dropWhile isBlank

/-- The text without the blanks that it ends with. -/
def trimEnd (cs : List Char) : List Char :=
  (cs.reverse.dropWhile isBlank).reverse

/-- The text without the blanks at its two ends. -/
def trim (cs : List Char) : List Char :=
  trimEnd (trimStart cs)

/-! ## Counting bytes -/

/-- How many bytes a text takes in UTF-8. -/
def countBytes (cs : List Char) : Nat :=
  cs.foldl (fun n c => n + c.utf8Size) 0

/-- The text without the characters that begin in its first `n` bytes. -/
def dropBytes (n : Nat) : List Char → List Char
  | [] => []
  | c :: rest => if n = 0 then c :: rest else dropBytes (n - c.utf8Size) rest

/-- The characters that begin in the first `n` bytes of a text. -/
def takeBytes (n : Nat) : List Char → List Char
  | [] => []
  | c :: rest => if n = 0 then [] else c :: takeBytes (n - c.utf8Size) rest

/-! ## Cutting at separators -/

/-- Cut a list at every element that satisfies `p`, dropping those elements. There is one
piece more than there are separators, so the empty list has one empty piece. -/
def splitWhere {α : Type} (p : α → Bool) : List α → List (List α)
  | [] => [[]]
  | a :: rest =>
    if p a then [] :: splitWhere p rest
    else
      match splitWhere p rest with
      | [] => [[a]]
      | piece :: pieces => (a :: piece) :: pieces

/-- The line without the carriage return that ends it, if one does. -/
def dropReturn (line : List Char) : List Char :=
  if line.getLast? = some '\r' then line.dropLast else line

/-- The lines among the pieces between newlines: a piece that a newline follows is a line,
less one carriage return at its end; the last piece is a line only if it holds something. -/
def closeLines : List (List Char) → List (List Char)
  | [] => []
  | [last] => if last.isEmpty then [] else [last]
  | line :: rest => dropReturn line :: closeLines rest

/-- The lines of a text. A line ends at a newline, and the carriage return just before that
newline belongs to the line's end; a carriage return anywhere else is an ordinary character. -/
def lines (cs : List Char) : List (List Char) :=
  closeLines (splitWhere (· == '\n') cs)

/-- The words of a text: its maximal runs of characters that are not blank. -/
def words (cs : List Char) : List (List Char) :=
  (splitWhere isBlank cs).filter fun w => !w.isEmpty

end Confine.Text
