import Confine.Text.Quoted

set_option autoImplicit false

/-! # Hexadecimal listings

Machine code is written down as hexadecimal text. Reading is tolerant: every byte of the text
that is not a digit separates groups, and digits are taken two at a time, so that `B82A`,
`B8 2A` and `b8:2a` all name the same two bytes. The one thing refused is a digit without a
partner; `Fault` says where it stands and what stopped the pair. Writing has a single form,
upper-case pairs with one space after each. -/

namespace Confine.Hex

/-- The value of an ASCII hexadecimal digit, in either case. -/
def digitValue? (b : UInt8) : Option UInt8 :=
  if 0x30 ≤ b ∧ b ≤ 0x39 then some (b - 0x30)
  else if 0x41 ≤ b ∧ b ≤ 0x46 then some (b - 0x37)
  else if 0x61 ≤ b ∧ b ≤ 0x66 then some (b - 0x57)
  else none

/-- A lone digit: its offset in bytes, and the byte that follows it, if there is one. -/
structure Fault where
  /-- The offset of the lone digit. -/
  offset : Nat
  /-- The byte after the lone digit; `none` at the end of the text. -/
  next : Option UInt8
  deriving DecidableEq, Repr

/-- What stopped the pair. The following byte is shown as the character with that number, so a
byte of a longer encoding is shown on its own. -/
def Fault.reason (f : Fault) : String :=
  match f.next with
  | none => "odd hex group at end of input"
  | some b => "odd hex group before " ++ Text.quotedChar (Char.ofNat b.toNat)

/-- The wording of a fault. -/
def Fault.message (f : Fault) : String :=
  s!"hex parse failed at offset {f.offset}: " ++ f.reason

/-- Decode the bytes of a text of which `offset` bytes came before. -/
def decodeFrom (offset : Nat) : List UInt8 → Except Fault (List UInt8)
  | [] => .ok []
  | [b] =>
    match digitValue? b with
    | none => .ok []
    | some _ => .error ⟨offset, none⟩
  | b :: c :: rest =>
    match digitValue? b with
    | none => decodeFrom (offset + 1) (c :: rest)
    | some hi =>
      match digitValue? c with
      | none => .error ⟨offset, some c⟩
      | some lo => (decodeFrom (offset + 2) rest).map ((hi * 16 + lo) :: ·)

/-- Decode a listing into the bytes that it names. -/
def decode (text : String) : Except Fault (List UInt8) :=
  decodeFrom 0 text.toUTF8.toList

/-- The upper-case digit with a value below sixteen. -/
def digit (v : UInt8) : Char :=
  if v < 10 then Char.ofNat (0x30 + v.toNat) else Char.ofNat (0x37 + v.toNat)

/-- The pair of digits of a byte, and the space that follows it. -/
def encodeByte (b : UInt8) : List Char :=
  [digit (b / 16), digit (b % 16), ' ']

/-- Write bytes as a listing. -/
def encode (bytes : List UInt8) : String :=
  String.ofList (bytes.flatMap encodeByte)

end Confine.Hex
