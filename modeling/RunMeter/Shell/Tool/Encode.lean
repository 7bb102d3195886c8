import RunMeter.Shell.Tool.Basic

/-!
# Octets as text

Tools that write octets with letters of an alphabet and read them back, and one that shows the octets
of files as numbers or characters.
-/

set_option autoImplicit false

namespace RunMeter.Shell.Tool

/-! ## Alphabets -/

/-- How octets are written with letters: in groups of digits, each of so many bits. -/
structure Alphabet where
  letters : String
  bits : Nat
  /-- The number of letters in a group, and of the octets for which they stand. -/
  group : Nat
  octets : Nat

/-- Sixty-four letters. -/
def alphabet64 : Alphabet :=
  { letters := "ABCDEFGHIJKLMNOPQRSTUVWXYZabcdefghijklmnopqrstuvwxyz0123456789+/"
    bits := 6, group := 4, octets := 3 }

/-- Thirty-two letters. -/
def alphabet32 : Alphabet :=
  { letters := "ABCDEFGHIJKLMNOPQRSTUVWXYZ234567", bits := 5, group := 8, octets := 5 }

namespace Alphabet

/-- The letters for the octets of one group. -/
def encodeGroup (alphabet : Alphabet) (octets : List Char) : List Char :=
  let letters := alphabet.letters.toList
  let missing := alphabet.octets - octets.length
  let n := octets.foldl (fun n c => n * 256 + c.toNat) 0 * 256 ^ missing
  let used := (8 * octets.length + alphabet.bits - 1) / alphabet.bits
  (List.range alphabet.group).map fun i =>
    if i < used then
      letters.getD (n / 2 ^ (alphabet.bits * (alphabet.group - 1 - i)) % 2 ^ alphabet.bits) '='
    else '='

/-- The letters for octets. `fuel` is more than their number. -/
def encode (alphabet : Alphabet) : (fuel : Nat) → List Char → List Char
  | 0, _ => []
  | _, [] => []
  | fuel + 1, octets =>
    alphabet.encodeGroup (octets.take alphabet.octets) ++
      alphabet.encode fuel (octets.drop alphabet.octets)

/-- The number that a letter stands for. -/
def digit? (alphabet : Alphabet) (letter : Char) : Option Nat :=
  alphabet.letters.toList.findIdx? (· == letter)

/-- The octets of one group of letters, and whether the group is a right one. Groups that are cut short
give what they can if the alphabet is the larger one. -/
def decodeGroup (alphabet : Alphabet) (letters : List Char) : List Char × Bool :=
  let digits := (letters.map alphabet.digit?).takeWhile Option.isSome |>.filterMap id
  let given := digits.length * alphabet.bits / 8
  let n := digits.foldl (fun n digit => n * 2 ^ alphabet.bits + digit) 0 *
    2 ^ (alphabet.bits * (alphabet.group - digits.length))
  let octets := (List.range given).map fun i =>
    Char.ofNat (n / 2 ^ (alphabet.bits * alphabet.group - 8 * (i + 1)) % 256)
  let isWhole := letters.length = alphabet.group
  let rest := letters.drop digits.length
  let isRight := isWhole && rest.all (· == '=') && given > 0 &&
    (8 * given + alphabet.bits - 1) / alphabet.bits = digits.length
  (if isWhole || alphabet.bits = 6 then octets else [], isRight)

/-- The octets of letters, and whether all the letters are right. `fuel` is more than their number. -/
def decode (alphabet : Alphabet) : (fuel : Nat) → List Char → List Char × Bool
  | 0, _ => ([], true)
  | _, [] => ([], true)
  | fuel + 1, letters =>
    match alphabet.decodeGroup (letters.take alphabet.group) with
    | (octets, false) => (octets, false)
    | (octets, true) =>
      let (more, isRight) := alphabet.decode fuel (letters.drop alphabet.group)
      (octets ++ more, isRight)

end Alphabet

/-- A text divided into lines of a length. `fuel` is more than its length. -/
def wrapped (width : Nat) : (fuel : Nat) → List Char → List Char
  | 0, _ => []
  | _, [] => []
  | fuel + 1, text => text.take width ++ '\n' :: wrapped width fuel (text.drop width)

/-- Writes octets with letters, or reads them back. -/
def encoded (alphabet : Alphabet) (args : List String) (run : Run) : Run :=
  let table : OptionTable :=
    { short := "diw:"
      long := [("decode", .nothing, 'd'), ("ignore-garbage", .nothing, 'i'), ("wrap", .required, 'w')] }
  withOptions table 1 args run fun given run =>
    let width := (given.value? 'w').getD "76"
    match width.toNat?, given.operands with
    | none, _ => fail run ("invalid wrap size: '" ++ width ++ "'")
    | _, _ :: operand :: _ => extraOperand run operand
    | some width, operands =>
      let name := operands.headD "-"
      match contents run name with
      | (.error .isADirectory, run) => fail run ("read error: " ++ faultText .isADirectory)
      | (.error fault, run) => fail run (shown name ++ ": " ++ faultText fault)
      | (.ok text, run) =>
        let characters := text.toList
        if given.has 'd' then
          let letters := characters.filter fun c =>
            c != '\n' && (!given.has 'i' || c == '=' || (alphabet.digit? c).isSome)
          let (octets, isRight) := alphabet.decode (letters.length + 1) letters
          let run := (run.print (String.ofList octets)).ended 0
          if isRight then run else fail run "invalid input"
        else
          let letters := alphabet.encode (characters.length + 1) characters
          let text := if width = 0 then letters else wrapped width (letters.length + 1) letters
          (run.print (String.ofList text)).ended 0

/-! ## Octets shown one by one -/

/-- How octets are shown. -/
inductive DumpKind
  /-- Numbers of so many octets in a base. -/
  | number (octets base : Nat)
  | signed (octets : Nat)
  | character
  | named
deriving DecidableEq, Repr

/-- One of the ways in which a line of octets is shown, and whether it ends with them as text. -/
structure DumpRow where
  kind : DumpKind
  showsText : Bool := false
deriving Repr

namespace DumpKind

/-- How many octets make up one field. -/
def octets : DumpKind → Nat
  | .number octets _ => octets
  | .signed octets => octets
  | .character | .named => 1

/-- The width of a field. -/
def width : DumpKind → Nat
  | .number octets 8 => (8 * octets + 2) / 3
  | .number octets 16 => 2 * octets
  | .number octets _ => (toString (256 ^ octets - 1)).length
  | .signed octets => (toString (128 * 256 ^ (octets - 1))).length + 1
  | .character | .named => 3

/-- The names of the octets that are no characters to be seen. -/
def names : List String :=
  ["nul", "soh", "stx", "etx", "eot", "enq", "ack", "bel", "bs", "ht", "nl", "vt", "ff", "cr", "so",
    "si", "dle", "dc1", "dc2", "dc3", "dc4", "nak", "syn", "etb", "can", "em", "sub", "esc", "fs",
    "gs", "rs", "us", "sp"]

/-- A number with at least so many digits in a base. -/
def digits (base width n : Nat) : String :=
  let digits := Nat.toDigits base n
  String.ofList (List.replicate (width - digits.length) '0' ++ digits)

/-- The text of one field. The lowest octet of a number comes first. -/
def field (kind : DumpKind) (octets : List Nat) : String :=
  let n := octets.foldr (fun octet n => octet + 256 * n) 0
  match kind with
  | .number _ 10 => toString n
  | .number _ base => digits base kind.width n
  | .signed count =>
    if n < 128 * 256 ^ (count - 1) then toString n else "-" ++ toString (256 ^ count - n)
  | .named =>
    let low := n % 128
    if low = 127 then "del" else names.getD low (String.ofList [Char.ofNat low])
  | .character =>
    match n with
    | 0 => "\\0"
    | 7 => "\\a"
    | 8 => "\\b"
    | 9 => "\\t"
    | 10 => "\\n"
    | 11 => "\\v"
    | 12 => "\\f"
    | 13 => "\\r"
    | n => if 32 ≤ n && n < 127 then String.ofList [Char.ofNat n] else digits 8 3 n

end DumpKind

/-- How octets are dumped. -/
structure Dump where
  rows : List DumpRow
  width : Nat
  /-- The base in which places are counted, unless they are not shown. -/
  base : Option Nat

namespace Dump

/-- A place as it stands before a line. -/
def place (dump : Dump) (n : Nat) : String :=
  match dump.base with
  | none => ""
  | some base => DumpKind.digits base (if base = 16 then 6 else 7) n

/-- The width of all the fields of a row. -/
def rowWidth (dump : Dump) (row : DumpRow) : Nat :=
  dump.width / row.kind.octets * (row.kind.width + 1)

/-- One row of a line. -/
def row (dump : Dump) (row : DumpRow) (octets : List Nat) : String :=
  let size := row.kind.octets
  let fields := dump.width / size
  let widest := (dump.rows.map dump.rowWidth).foldl max 0
  let room := widest - dump.rowWidth row
  let written := (octets.length + size - 1) / size
  let text := String.join ((List.range written).map fun i =>
    let before := room * (fields - i) / fields
    let after := room * (fields - i - 1) / fields
    let piece := (octets.drop (i * size)).take size
    leftPadded (row.kind.width + 1 + (before - after)) (row.kind.field piece))
  let blank := leftPadded ((fields - written) * (row.kind.width + 1) +
    room * (fields - written) / fields) ""
  let readable := String.ofList (octets.map fun n => if 32 ≤ n && n < 127 then Char.ofNat n else '.')
  text ++ (if row.showsText then blank ++ "  >" ++ readable ++ "<" else "") ++ "\n"

/-- The lines for one row of octets. -/
def lines (dump : Dump) (start : Nat) (octets : List Nat) : String :=
  let lead := dump.place start
  String.join (dump.rows.zipIdx.map fun (row, i) =>
    (if i = 0 then lead else leftPadded lead.length "") ++ dump.row row octets)

/-- Everything from a place on. Lines like the one before are left out, unless all are wanted. `fuel`
is more than the number of octets. -/
def text (dump : Dump) (showsAll : Bool) :
    (fuel : Nat) → (start : Nat) → Option (List Nat × Bool) → List Nat → List String
  | 0, _, _, _ => []
  | _, start, _, [] => if dump.base.isSome then [dump.place start ++ "\n"] else []
  | fuel + 1, start, before, octets =>
    let line := octets.take dump.width
    let rest := octets.drop dump.width
    let isSame := !showsAll && line.length = dump.width && before.any fun (last, _) => last == line
    let next := start + line.length
    if isSame then
      let more := dump.text showsAll fuel next (some (line, true)) rest
      if before.any (·.2) then more else "*\n" :: more
    else dump.lines start line :: dump.text showsAll fuel next (some (line, false)) rest

end Dump

/-- The rows that a description of types means. `fuel` is more than its length. -/
def dumpRows (whole : String) : (fuel : Nat) → List Char → Except String (List DumpRow)
  | 0, _ => .ok []
  | _, [] => .ok []
  | fuel + 1, letter :: rest =>
    let withText (kind : DumpKind) (rest : List Char) : Except String (List DumpRow) :=
      match rest with
      | 'z' :: rest => do .ok ({ kind, showsText := true } :: (← dumpRows whole fuel rest))
      | rest => do .ok ({ kind } :: (← dumpRows whole fuel rest))
    let sized (kind : Nat → DumpKind) : Except String (List DumpRow) :=
      match rest with
      | 'C' :: rest => withText (kind 1) rest
      | 'S' :: rest => withText (kind 2) rest
      | 'I' :: rest => withText (kind 4) rest
      | 'L' :: rest => withText (kind 8) rest
      | rest =>
        let digits := rest.takeWhile Char.isDigit
        let size := (String.ofList digits).toNat?.getD 4
        if [1, 2, 4, 8].contains size then withText (kind size) (rest.drop digits.length)
        else
          .error ("invalid type string '" ++ whole ++ "';\nthis system doesn't provide a " ++
            toString size ++ "-byte integral type")
    match letter with
    | 'a' => withText .named rest
    | 'c' => withText .character rest
    | 'd' => sized .signed
    | 'o' => sized (.number · 8)
    | 'u' => sized (.number · 10)
    | 'x' => sized (.number · 16)
    | c => .error ("invalid character '" ++ String.ofList [c] ++ "' in type string '" ++ whole ++ "'")

/-- The rows that an option means, if it means any. -/
def dumpOption (option : Char × Option String) : Except String (List DumpRow) :=
  let one (kind : DumpKind) : Except String (List DumpRow) := .ok [{ kind }]
  match option with
  | ('a', _) => one .named
  | ('b', _) => one (.number 1 8)
  | ('c', _) => one .character
  | ('d', _) => one (.number 2 10)
  | ('o', _) => one (.number 2 8)
  | ('s', _) => one (.signed 2)
  | ('i', _) => one (.signed 4)
  | ('l', _) => one (.signed 8)
  | ('x', _) | ('h', _) => one (.number 2 16)
  | ('t', some text) => dumpRows text (text.length + 1) text.toList
  | _ => .ok []

/-- A count of octets, perhaps in another base or with a suffix. -/
def dumpCount? (text : String) : Option Nat :=
  match text.toList with
  | '0' :: 'x' :: digits =>
    let value (c : Char) : Option Nat :=
      if c.isDigit then some (c.toNat - 48)
      else if 'a' ≤ c.toLower && c.toLower ≤ 'f' then some (c.toLower.toNat - 87)
      else none
    if digits.isEmpty then none
    else digits.foldl (fun n c => n.bind fun n => (value c).map fun d => 16 * n + d) (some 0)
  | '0' :: digit :: digits =>
    let all := digit :: digits
    if all.all fun c => '0' ≤ c && c ≤ '7' then
      some (all.foldl (fun n c => 8 * n + (c.toNat - 48)) 0)
    else none
  | _ => count? text

/-- Shows the octets of files. -/
def od (args : List String) (run : Run) : Run :=
  let table : OptionTable :=
    { short := "abcdhilosxA:j:N:t:vw::"
      long :=
        [("address-radix", .required, 'A'), ("skip-bytes", .required, 'j'),
          ("read-bytes", .required, 'N'), ("format", .required, 't'),
          ("output-duplicates", .nothing, 'v'), ("width", .optional, 'w')] }
  withOptions table 1 args run fun given run =>
    let radix := (given.value? 'A').getD "o"
    let base : Option (Option Nat) := match radix.toList.head? with
      | some 'o' => some (some 8)
      | some 'd' => some (some 10)
      | some 'x' => some (some 16)
      | some 'n' => some none
      | _ => none
    let count (letter : Char) : Option (Option Nat) :=
      match given.value? letter with
      | none => some none
      | some text => (dumpCount? text).map some
    let rows := given.options.foldl
      (fun (rows : Except String (List DumpRow)) option => do .ok ((← rows) ++ (← dumpOption option)))
      (.ok [])
    match base, count 'j', count 'N', rows with
    | none, _, _, _ =>
      fail run ("invalid output address radix '" ++ radix ++ "'; it must be one character from [doxn]")
    | _, none, _, _ => fail run ("invalid -j argument '" ++ (given.value? 'j').getD "" ++ "'")
    | _, _, none, _ => fail run ("invalid -N argument '" ++ (given.value? 'N').getD "" ++ "'")
    | _, _, _, .error text => fail run text
    | some base, some skipped, some limit, .ok rows =>
      let rows := if rows.isEmpty then [{ kind := .number 2 8 }] else rows
      let unit := (rows.map (·.kind.octets)).foldl max 1
      let asked : Nat :=
        if given.has 'w' then ((given.value? 'w').bind String.toNat?).getD 32 else 16
      let isFit := asked % unit = 0 && asked > 0
      let run := if isFit then run
        else run.write 2 (run.process.name ++ ": warning: invalid width " ++ toString asked ++
          "; using " ++ toString unit ++ " instead\n")
      let opens (name : String) : Bool := name == "-" || run.asksFile "-e" name
      let opened := given.operands.isEmpty || given.operands.any opens
      let (text, run) := gathered shown given.operands run
      let octets := text.toList.map Char.toNat
      let start := skipped.getD 0
      if !opened then run
      else if octets.length < start then fail run "cannot skip past end of combined input"
      else
        let octets := octets.drop start
        let octets := match limit with
          | some limit => octets.take limit
          | none => octets
        let run := if limit.isSome && run.control == .exhausted then { run with control := .proceed } else run
        let dump : Dump := { rows, width := if isFit then asked else unit, base }
        run.print (String.join (dump.text (given.has 'v') (octets.length + 1) start none octets))

end RunMeter.Shell.Tool
