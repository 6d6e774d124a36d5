import Confine.Text.Utf8

set_option autoImplicit false

/-! # Octets

Commands work on bytes and know nothing of larger characters. Here a byte is held as the
character with its number, an octet, so that bytes can be compared, matched and written down like
any other text. A text becomes octets by its bytes, and octets become a text again if they are the
bytes of one. -/

namespace Confine.Text

/-- The octet for a byte. -/
def ofByte (b : UInt8) : Char :=
  Char.ofNat b.toNat

/-- The byte of an octet. -/
def toByte (c : Char) : UInt8 :=
  UInt8.ofNat c.toNat

/-- The octets for some bytes. -/
def ofBytes (bytes : List UInt8) : List Char :=
  bytes.map ofByte

/-- The bytes of some octets. -/
def toBytes (octets : List Char) : List UInt8 :=
  octets.map toByte

/-- The octets of a text. -/
def octets (text : String) : String :=
  String.ofList (ofBytes (bytesOf text))

/-- The text that some octets write. Octets that are not the bytes of a text stand for
themselves. -/
def ofOctets (octets : String) : String :=
  (ofBytes? (toBytes octets.toList)).getD octets

end Confine.Text
