import Confine.Text.Visible

set_option autoImplicit false

/-! # Quoted texts in messages

A text that a message shows is put between quotes with everything escaped that could hide
or end it. Both kinds of quotes escape the backslash and write the common controls with one
letter; each kind escapes its own quote only. -/

namespace Confine.Text

/-- The number in lower-case hexadecimal without leading zeros. -/
def hexDigits (n : Nat) : String :=
  String.ofList (Nat.toDigits 16 n)

/-- The escape that names a code point. -/
def codePointEscape (c : Char) : String :=
  "\\u\x7b" ++ hexDigits c.toNat ++ "\x7d"

/-- A character as it stands between quotes of the kind `quote`. -/
def quoteChar (quote : Char) (c : Char) : String :=
  if c = '\x00' then "\\0"
  else if c = '\t' then "\\t"
  else if c = '\n' then "\\n"
  else if c = '\r' then "\\r"
  else if c = '\\' then "\\\\"
  else if c = quote then String.ofList ['\\', c]
  else if isVisible c then String.singleton c
  else codePointEscape c

/-- A text between double quotes. -/
def quoted (s : String) : String :=
  "\"" ++ String.join (s.toList.map (quoteChar '"')) ++ "\""

/-- A character between single quotes. -/
def quotedChar (c : Char) : String :=
  "'" ++ quoteChar '\x27' c ++ "'"

end Confine.Text
