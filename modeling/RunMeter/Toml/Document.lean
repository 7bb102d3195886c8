import RunMeter.Toml.Scalar

/-!
# TOML documents

A document is a sequence of lines: blank lines and comments, headers that open a table, and
definitions of a key in the table opened last. `parse?` returns the root table, or nothing if the
text breaks the grammar or a definition goes back on an earlier one.
-/

set_option autoImplicit false

namespace RunMeter.Toml

/-- The characters of a key that needs no quotes. -/
def isBare (c : Char) : Bool := c.isAlphanum || c == '_' || c == '-'

/-- One part of a key. -/
def keyPart? (text : List Char) : Option (String × List Char) :=
  match text with
  | '"' :: rest => basicString? text.length [] rest
  | '\'' :: rest => literalString? [] rest
  | _ =>
    let part := text.takeWhile isBare
    if part.isEmpty then none else some (String.ofList part, text.dropWhile isBare)

/-- The parts of a key, which stand between points and may have blanks around them, as many as are
`left` at most. Returned are the parts but the last, the last one, and what follows. -/
def keyParts? : (left : Nat) → (front : List String) → List Char →
    Option (List String × String × List Char)
  | 0, _, _ => none
  | left + 1, front, text => do
    let (part, rest) ← keyPart? (skipSpace text)
    match skipSpace rest with
    | '.' :: rest => keyParts? left (front ++ [part]) rest
    | rest => some (front, part, rest)

/-- The deepest nesting of arrays and inline tables, and the longest key, plus one. -/
def nestingLimit : Nat := 80

/-- A key at the start of a text. -/
def key? (text : List Char) : Option (List String × String × List Char) :=
  keyParts? (nestingLimit - 1) [] text

/-- Blanks, comments and line endings between the items of an array. -/
def skipLines : (fuel : Nat) → List Char → List Char
  | 0, text => text
  | fuel + 1, text =>
    let text := skipSpace text
    match newline? (skipComment text) with
    | some rest => skipLines fuel rest
    | none => text

mutual

/-- A value at the start of a text, and what follows it. `depth` is the nesting that is left. -/
def value? : (fuel depth : Nat) → List Char → Option (Node × List Char)
  | 0, _, _ => none
  | fuel + 1, depth, text =>
    match text with
    | '[' :: rest =>
      match depth with
      | 0 | 1 => none
      | depth + 1 => (items? fuel depth [] rest).map fun (items, rest) => (.array items, rest)
    | '\x7b' :: rest =>
      match depth with
      | 0 | 1 => none
      | depth + 1 =>
        match skipSpace rest with
        | '\x7d' :: rest => some (.table false false true [], rest)
        | rest => do
          let (definitions, rest) ← definitions? fuel depth [] rest
          let members ← inlineMembers? definitions []
          some (.table false false true members, rest)
    | _ => scalar? text

/-- The items of an array up to its end. -/
def items? : (fuel depth : Nat) → (collected : List Node) → List Char →
    Option (List Node × List Char)
  | 0, _, _, _ => none
  | fuel + 1, depth, collected, text =>
    match skipLines text.length text with
    | ']' :: rest => some (collected.reverse, rest)
    | text => do
      let (item, rest) ← value? fuel depth text
      match skipLines rest.length rest with
      | ',' :: rest => items? fuel depth (item :: collected) rest
      | ']' :: rest => some ((item :: collected).reverse, rest)
      | _ => none

/-- The definitions of an inline table up to its end. -/
def definitions? : (fuel depth : Nat) → (collected : List (List String × String × Node)) →
    List Char → Option (List (List String × String × Node) × List Char)
  | 0, _, _, _ => none
  | fuel + 1, depth, collected, text => do
    let (front, key, rest) ← key? text
    match rest with
    | '=' :: rest =>
      let (node, rest) ← value? fuel depth (skipSpace rest)
      match skipSpace rest with
      | ',' :: rest => definitions? fuel depth ((front, key, node) :: collected) rest
      | '\x7d' :: rest => some (((front, key, node) :: collected).reverse, rest)
      | _ => none
    | _ => none

end

/-- What follows the end of a line: blanks, a comment, and a line ending or the end of the text. -/
def lineEnd? (text : List Char) : Option (List Char) :=
  match skipComment (skipSpace text) with
  | [] => some []
  | rest => newline? rest

/-- The document so far: the header that was opened last, and the root table. -/
structure Progress where
  header : List String
  root : Members

/-- Reads lines up to the end of the text. -/
def lines? : (fuel : Nat) → Progress → List Char → Option Members
  | 0, _, _ => none
  | fuel + 1, state, text =>
    match skipSpace text with
    | [] => some state.root
    | '[' :: '[' :: rest => do
      let (front, key, rest) ← key? rest
      match rest with
      | ']' :: ']' :: rest =>
        let rest ← lineEnd? rest
        let root ← openTables? front key state.root
        lines? fuel { header := front ++ [key], root } rest
      | _ => none
    | '[' :: rest => do
      let (front, key, rest) ← key? rest
      match rest with
      | ']' :: rest =>
        let rest ← lineEnd? rest
        let root ← openTable? front key state.root
        lines? fuel { header := front ++ [key], root } rest
      | _ => none
    | c :: rest =>
      if c == '#' || c == '\n' || c == '\r' then do
        let rest ← lineEnd? (c :: rest)
        lines? fuel state rest
      else do
        let (front, key, rest) ← key? (c :: rest)
        match rest with
        | '=' :: rest =>
          let (node, rest) ← value? (2 * text.length + 2) nestingLimit (skipSpace rest)
          let rest ← lineEnd? rest
          let root ← defineUnder? state.header front key node state.root
          lines? fuel { state with root } rest
        | _ => none

/-- The root table of a document. A byte order mark at its start is not part of it. -/
def parse? (text : String) : Option Members :=
  let chars := text.toList
  let chars := if chars.head? == some '\uFEFF' then chars.drop 1 else chars
  lines? (chars.length + 1) { header := [], root := [] } chars

end RunMeter.Toml
