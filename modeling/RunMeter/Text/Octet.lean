import RunMeter.Text.Utf8

/-!
# Octets as characters

A shell knows texts only as rows of octets. Inside it every octet is the character with its number,
so that the ordinary functions on texts apply. Texts turn into octets where a program is started, and
octets turn into bytes where something is written.
-/

set_option autoImplicit false

namespace RunMeter.Text

/-- Bytes, each as the character with its number. -/
def octetsOfBytes (bytes : ByteArray) : String :=
  String.ofList (bytes.toList.map fun byte => Char.ofNat byte.toNat)

/-- The octets of a text. -/
def octets (text : String) : String := octetsOfBytes text.toUTF8

/-- The bytes that octets stand for. -/
def octetBytes (text : String) : ByteArray :=
  ByteArray.mk (text.toList.map fun c => UInt8.ofNat c.toNat).toArray

/-- Octets read as text, whatever they hold. -/
def octetText (text : String) : String := lossyText (octetBytes text)

end RunMeter.Text
