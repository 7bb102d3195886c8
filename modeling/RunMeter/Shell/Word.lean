import RunMeter.Shell.Script

/-!
# Words of the extended dialect

A word with braces stands for several words: one for every alternative between commas, or for every
number or letter of a range. Between a dollar sign and quotes, a backslash begins the name of a
character.
-/

set_option autoImplicit false

namespace RunMeter.Shell

/-! ## Braces -/

/-- A character of a word that is not quoted, or any other part of a word. -/
inductive WordAtom
  | plain (c : Char)
  | other (part : WordPart)

namespace WordAtom

/-- The atoms of a word. -/
def ofWord (word : Word) : List WordAtom :=
  word.flatMap fun part =>
    match part with
    | .text characters false => characters.toList.map .plain
    | part => [.other part]

/-- The word of atoms. -/
def toWord : List WordAtom → Word
  | [] => []
  | .other part :: rest => part :: toWord rest
  | .plain c :: rest =>
    match toWord rest with
    | .text characters false :: parts => .text (String.ofList (c :: characters.toList)) false :: parts
    | parts => .text (String.ofList [c]) false :: parts

/-- Whether an atom is a character. -/
def isPlain (c : Char) : WordAtom → Bool
  | .plain d => d == c
  | .other _ => false

/-- The text of atoms that are all characters. -/
def text? (atoms : List WordAtom) : Option String :=
  (atoms.mapM fun atom =>
    match atom with
    | WordAtom.plain c => some c
    | WordAtom.other _ => none).map String.ofList

/-- The pieces between the commas of what stands before a closing brace, and what follows that.
`depth` braces are open within the piece that has begun, which is kept in reverse. -/
def alternatives? (depth : Nat) (piece : List WordAtom) :
    List WordAtom → Option (List (List WordAtom) × List WordAtom)
  | [] => none
  | atom :: rest =>
    if atom.isPlain '\x7d' && depth = 0 then some ([piece.reverse], rest)
    else if atom.isPlain ',' && depth = 0 then
      (alternatives? 0 [] rest).map fun (pieces, after) => (piece.reverse :: pieces, after)
    else
      let depth := if atom.isPlain '\x7b' then depth + 1
        else if atom.isPlain '\x7d' then depth - 1
        else depth
      alternatives? depth (atom :: piece) rest

/-- A whole number, and whether it is written with zeros at its front. -/
def bound? (text : String) : Option (Int × Bool) :=
  let (isNegative, digits) := match text.toList with
    | '-' :: digits => (true, digits)
    | '+' :: digits => (false, digits)
    | digits => (false, digits)
  if digits.isEmpty || !digits.all Char.isDigit then none
  else
    let n : Int := (digits.foldl (fun n c => n * 10 + (c.toNat - 48)) 0 : Nat)
    some (if isNegative then -n else n, digits.length > 1 && digits.head? == some '0')

/-- The numbers from one to another, in steps of a size. -/
def steps (low high : Int) (step : Nat) : List Int :=
  let step := max 1 step
  let count := (high - low).natAbs / step + 1
  (List.range count).map fun i =>
    if low ≤ high then low + (i * step : Nat) else low - (i * step : Nat)

/-- A number with zeros at its front up to a width. -/
def filled (width : Nat) (n : Int) : String :=
  let digits := toString n.natAbs
  let sign := if n < 0 then "-" else ""
  sign ++ String.ofList (List.replicate (width - sign.length - digits.length) '0') ++ digits

/-- The texts of a range of numbers or letters. -/
def range? (text : String) : Option (List String) :=
  let between (low high : String) (step : Nat) : Option (List String) :=
    match bound? low, bound? high, low.toList, high.toList with
    | some (a, fillsA), some (b, fillsB), _, _ =>
      let width := if fillsA || fillsB then max low.length high.length else 0
      some ((steps a b step).map (filled width))
    | none, none, [a], [b] =>
      if a.isAlpha && b.isAlpha then
        some ((steps a.toNat b.toNat step).map fun n => String.ofList [Char.ofNat n.toNat])
      else none
    | _, _, _, _ => none
  match text.splitOn ".." with
  | [low, high] => between low high 1
  | [low, high, step] => (bound? step).bind fun (n, _) => between low high n.natAbs
  | _ => none

/-- The rows of atoms that a row with braces stands for. `fuel` is more than its length. -/
def spread : (fuel : Nat) → List WordAtom → List (List WordAtom)
  | 0, atoms => [atoms]
  | _, [] => [[]]
  | fuel + 1, atom :: rest =>
    let plainly (_ : Unit) : List (List WordAtom) := (spread fuel rest).map (atom :: ·)
    if !atom.isPlain '\x7b' then plainly ()
    else
      match alternatives? 0 [] rest with
      | none => plainly ()
      | some (pieces, after) =>
        let chosen : Option (List (List WordAtom)) :=
          match pieces with
          | [single] =>
            (text? single).bind fun text =>
              (range? text).map fun texts => texts.map fun text => text.toList.map .plain
          | pieces => some (pieces.flatMap (spread fuel))
        match chosen with
        | none => plainly ()
        | some chosen =>
          let ends := spread fuel after
          chosen.flatMap fun first => ends.map (first ++ ·)

end WordAtom

/-- The words that a word with braces stands for. -/
def spreadWord (word : Word) : List Word :=
  let atoms := WordAtom.ofWord word
  if atoms.any (·.isPlain '\x7b') then
    (WordAtom.spread (atoms.length + 1) atoms).map WordAtom.toWord
  else [word]

/-! ## Names of characters -/

/-- The value of the digits of a base at the front, at most so many of them, and what follows. -/
def leadingDigits (base limit : Nat) (text : List Char) : Nat × Nat × List Char :=
  let value? (c : Char) : Option Nat :=
    let n := if c.isDigit then c.toNat - 48
      else if 'a' ≤ c.toLower && c.toLower ≤ 'f' then c.toLower.toNat - 87
      else 99
    if n < base then some n else none
  let digits := (text.take limit).takeWhile fun c => (value? c).isSome
  (digits.foldl (fun n c => n * base + (value? c).getD 0) 0, digits.length, text.drop digits.length)

/-- The octets of the text of one character. -/
def characterOctets (n : Nat) : List Char :=
  (String.ofList [Char.ofNat n]).toUTF8.toList.map fun byte => Char.ofNat byte.toNat

/-- The characters up to a quote, with names of characters replaced, and what follows it. `fuel` is
more than the length of the text. -/
def namedCharacters : (fuel : Nat) → List Char → Option (List Char × List Char)
  | 0, _ => none
  | _, [] => none
  | _ + 1, '\'' :: rest => some ([], rest)
  | fuel + 1, '\\' :: c :: rest =>
    let put (characters rest : List Char) : Option (List Char × List Char) :=
      (namedCharacters fuel rest).map fun (more, after) => (characters ++ more, after)
    match c with
    | 'n' => put ['\n'] rest
    | 't' => put ['\t'] rest
    | 'r' => put ['\r'] rest
    | 'a' => put ['\x07'] rest
    | 'b' => put ['\x08'] rest
    | 'e' | 'E' => put ['\x1b'] rest
    | 'f' => put ['\x0c'] rest
    | 'v' => put ['\x0b'] rest
    | '\\' | '\'' | '"' | '?' => put [c] rest
    | 'x' =>
      match leadingDigits 16 2 rest with
      | (_, 0, _) => put ['\\', 'x'] rest
      | (n, _, after) => put [Char.ofNat n] after
    | 'u' | 'U' =>
      match leadingDigits 16 (if c == 'u' then 4 else 8) rest with
      | (_, 0, _) => put ['\\', c] rest
      | (n, _, after) => put (characterOctets n) after
    | 'c' =>
      match rest with
      | control :: after => put [Char.ofNat (control.toUpper.toNat % 32)] after
      | [] => none
    | c =>
      if '0' ≤ c && c ≤ '7' then
        let (n, _, after) := leadingDigits 8 3 (c :: rest)
        put [Char.ofNat (n % 256)] after
      else put ['\\', c] rest
  | fuel + 1, c :: rest => (namedCharacters fuel rest).map fun (more, after) => (c :: more, after)

end RunMeter.Shell
