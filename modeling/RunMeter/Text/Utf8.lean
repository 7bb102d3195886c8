/-!
# Bytes as text

Captured output is shown as text whatever bytes it holds: every longest piece of a broken UTF-8
sequence becomes one replacement character. A file that has to be text is read strictly, by the
decoder of the standard library.
-/

set_option autoImplicit false

namespace RunMeter.Text

/-- The character that stands for bytes that are no text. -/
def replacementChar : Char := '\uFFFD'

/-- Whether a byte can follow the first byte of a longer sequence. -/
def isContinuation (byte : UInt8) : Bool := 0x80 ≤ byte && byte ≤ 0xbf

/-- Whether `second` can follow `first` in a sequence of three or four bytes: overlong forms,
surrogates and numbers past the last code point are excluded here. -/
def canFollow (first second : UInt8) : Bool :=
  if first == 0xe0 then 0xa0 ≤ second && second ≤ 0xbf
  else if first == 0xed then 0x80 ≤ second && second ≤ 0x9f
  else if first == 0xf0 then 0x90 ≤ second && second ≤ 0xbf
  else if first == 0xf4 then 0x80 ≤ second && second ≤ 0x8f
  else isContinuation second

/-- How many bytes the sequence that begins with `first` has; zero if none begins with it. -/
def sequenceLength (first : UInt8) : Nat :=
  if first < 0x80 then 1
  else if 0xc2 ≤ first && first ≤ 0xdf then 2
  else if 0xe0 ≤ first && first ≤ 0xef then 3
  else if 0xf0 ≤ first && first ≤ 0xf4 then 4
  else 0

/-- The payload bits of a continuation byte. -/
def payload (byte : UInt8) : Nat := byte.toNat % 64

/-- The character at the start of `first :: rest`, and how many bytes of `rest` it takes. -/
def decodeOne (first : UInt8) (rest : List UInt8) : Char × Nat :=
  match sequenceLength first, rest with
  | 1, _ => (Char.ofNat first.toNat, 0)
  | 2, second :: _ =>
    if isContinuation second then (Char.ofNat (first.toNat % 32 * 64 + payload second), 1)
    else (replacementChar, 0)
  | 3, second :: rest =>
    if canFollow first second then
      match rest with
      | third :: _ =>
        if isContinuation third then
          (Char.ofNat ((first.toNat % 16 * 64 + payload second) * 64 + payload third), 2)
        else (replacementChar, 1)
      | [] => (replacementChar, 1)
    else (replacementChar, 0)
  | 4, second :: rest =>
    if canFollow first second then
      match rest with
      | third :: rest =>
        if isContinuation third then
          match rest with
          | fourth :: _ =>
            if isContinuation fourth then
              (Char.ofNat (((first.toNat % 8 * 64 + payload second) * 64 + payload third) * 64
                + payload fourth), 3)
            else (replacementChar, 2)
          | [] => (replacementChar, 2)
        else (replacementChar, 1)
      | [] => (replacementChar, 1)
    else (replacementChar, 0)
  | _, _ => (replacementChar, 0)

/-- The characters of a byte sequence, with broken pieces replaced. -/
def decodeBytes : List UInt8 → List Char
  | [] => []
  | first :: rest =>
    let (char, taken) := decodeOne first rest
    char :: decodeBytes (rest.drop taken)
termination_by bytes => bytes.length
decreasing_by
  simp only [List.length_drop, List.length_cons]
  omega

/-- Captured bytes as text. -/
def lossyText (bytes : ByteArray) : String := String.ofList (decodeBytes bytes.toList)

end RunMeter.Text
