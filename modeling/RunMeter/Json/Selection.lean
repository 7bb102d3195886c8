import RunMeter.Json.Reader

/-!
# Reading part of an object

Who asks for some members of an object should not fail over the others. `parseSelected?` reads a
document as `parse?` does, but a member of its object that is not wanted is passed over: its value
has to have the shape of JSON, and nothing else is asked of it. It may be nested to any depth, and
its strings may escape code units that are no characters. Keys are read in full, for only then is
it known whether they are wanted.
-/

set_option autoImplicit false

namespace RunMeter.Json

/-- What follows the closing quote of a string whose content is passed over. -/
def skipChars? : (fuel : Nat) → List Char → Option (List Char)
  | 0, _ => none
  | _ + 1, '"' :: rest => some rest
  | fuel + 1, '\\' :: 'u' :: rest => do
    let (_, rest) ← readUnit? rest
    skipChars? fuel rest
  | fuel + 1, '\\' :: c :: rest => do
    let _ ← shortEscape? c
    skipChars? fuel rest
  | fuel + 1, c :: rest => if c.toNat < 0x20 ∨ c = '\\' then none else skipChars? fuel rest
  | _ + 1, [] => none

mutual

/-- What follows a value that is passed over. -/
def skipValue? : (fuel : Nat) → List Char → Option (List Char)
  | 0, _ => none
  | fuel + 1, text =>
    match skipSpace text with
    | '"' :: rest => skipChars? (rest.length + 1) rest
    | '[' :: rest =>
      match skipSpace rest with
      | ']' :: rest => some rest
      | rest => skipItems? fuel rest
    | '\x7b' :: rest =>
      match skipSpace rest with
      | '\x7d' :: rest => some rest
      | rest => skipMembers? fuel rest
    | rest => (readValue? 1 1 rest).map Prod.snd

/-- What follows the end of an array whose items are passed over. -/
def skipItems? : (fuel : Nat) → List Char → Option (List Char)
  | 0, _ => none
  | fuel + 1, text => do
    let rest ← skipValue? fuel text
    match skipSpace rest with
    | ',' :: rest => skipItems? fuel rest
    | ']' :: rest => some rest
    | _ => none

/-- What follows the end of an object whose members are passed over. -/
def skipMembers? : (fuel : Nat) → List Char → Option (List Char)
  | 0, _ => none
  | fuel + 1, text => do
    match skipSpace text with
    | '"' :: rest =>
      let rest ← skipChars? (rest.length + 1) rest
      match skipSpace rest with
      | ':' :: rest =>
        let rest ← skipValue? fuel rest
        match skipSpace rest with
        | ',' :: rest => skipMembers? fuel rest
        | '\x7d' :: rest => some rest
        | _ => none
      | _ => none
    | _ => none

end

/-- A bound on the steps that passing over any part of a text can take. -/
def skipFuel (text : List Char) : Nat := 2 * text.length + 2

/-- The wanted members of an object up to its end. -/
def readSelected? (wanted : String → Bool) :
    (fuel : Nat) → (collected : List (String × Json)) → List Char →
    Option (List (String × Json) × List Char)
  | 0, _, _ => none
  | fuel + 1, collected, text => do
    match skipSpace text with
    | '"' :: rest =>
      let (key, rest) ← readString? rest
      match skipSpace rest with
      | ':' :: rest =>
        let (collected, rest) ←
          if wanted key then
            (readValue? (skipFuel rest) 127 rest).map fun (value, rest) =>
              ((key, value) :: collected, rest)
          else (skipValue? (skipFuel rest) rest).map fun rest => (collected, rest)
        match skipSpace rest with
        | ',' :: rest => readSelected? wanted fuel collected rest
        | '\x7d' :: rest => some (collected.reverse, rest)
        | _ => none
      | _ => none
    | _ => none

/-- The document that a text is, without the members of its object that are not wanted. -/
def parseSelected? (wanted : String → Bool) (text : String) : Option Json :=
  match skipSpace text.toList with
  | '\x7b' :: rest =>
    match skipSpace rest with
    | '\x7d' :: rest => if (skipSpace rest).isEmpty then some (.object []) else none
    | rest =>
      match readSelected? wanted (rest.length + 1) [] rest with
      | some (members, rest) => if (skipSpace rest).isEmpty then some (.object members) else none
      | none => none
  | _ => parse? text

end RunMeter.Json
