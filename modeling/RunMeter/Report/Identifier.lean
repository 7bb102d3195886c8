/-!
# Identifiers of runs

A run is identified by 16 random bytes, written in hexadecimal in groups. Six of the bits are not
random: they say that the others are.
-/

set_option autoImplicit false

namespace RunMeter.Identifier

/-- The bytes with the bits that mark them as random. -/
def marked (bytes : List UInt8) : List UInt8 :=
  bytes.zipIdx.map fun (byte, index) =>
    if index = 6 then (byte &&& 0x0f) ||| 0x40
    else if index = 8 then (byte &&& 0x3f) ||| 0x80
    else byte

/-- The two digits of a byte. -/
def digits (byte : UInt8) : List Char :=
  let low := Nat.toDigits 16 byte.toNat
  List.replicate (2 - low.length) '0' ++ low

/-- How many bytes each group has. -/
def groups : List Nat := [4, 2, 2, 2, 6]

/-- Bytes in groups of the given sizes. -/
def grouped : List Nat → List UInt8 → List (List UInt8)
  | [], _ => []
  | size :: sizes, bytes => bytes.take size :: grouped sizes (bytes.drop size)

/-- The identifier that random bytes make. -/
def ofBytes (bytes : List UInt8) : String :=
  "-".intercalate
    ((grouped groups (marked bytes)).map fun group => String.ofList (group.flatMap digits))

end RunMeter.Identifier
