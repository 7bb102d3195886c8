/-!
# Quoting

The ways in which a text is written so that a script would read it as one word again: between single
quotes, between double quotes, with a backslash before each character of meaning, or with names for
characters that cannot be shown.
-/

set_option autoImplicit false

namespace RunMeter.Shell.Quoting

/-- Whether a character can be shown. -/
def isShown (c : Char) : Bool := ' ' ≤ c && c ≤ '~'

/-- Whether a text has characters that need names. -/
def needsNames (text : String) : Bool := text.any fun c => !isShown c

/-- The name of a character after a dollar sign and a quote. -/
def characterName (c : Char) : String :=
  match c with
  | '\n' => "\\n"
  | '\t' => "\\t"
  | '\r' => "\\r"
  | '\x07' => "\\a"
  | '\x08' => "\\b"
  | '\x0b' => "\\v"
  | '\x0c' => "\\f"
  | '\x1b' => "\\E"
  | '\\' => "\\\\"
  | '\'' => "\\'"
  | c =>
    if isShown c then String.ofList [c]
    else
      let digits := Nat.toDigits 8 c.toNat
      "\\" ++ String.ofList (List.replicate (3 - digits.length) '0' ++ digits)

/-- A text with names for its characters. -/
def named (text : String) : String :=
  "$'" ++ String.join (text.toList.map characterName) ++ "'"

/-- A text between single quotes. -/
def single (text : String) : String :=
  if text == "'" then "\\'" else "'" ++ "'\\''".intercalate (text.splitOn "'") ++ "'"

/-- A text between double quotes. -/
def double (text : String) : String :=
  let protect (c : Char) : String :=
    if c == '"' || c == '$' || c == '\x60' || c == '\\' then "\\" ++ String.ofList [c]
    else String.ofList [c]
  "\"" ++ String.join (text.toList.map protect) ++ "\""

/-- Whether a character has a meaning wherever it stands. -/
def isMeaningful (c : Char) : Bool :=
  " \t\n'\"\\|&;()<>!\x7b\x7d*[]?^$\x60".toList.contains c

/-- Whether a text would not be read as it is. -/
def needsQuotes (text : String) : Bool :=
  let rec meansHome : List Char → Bool
    | '=' :: '~' :: _ => true
    | ':' :: '~' :: _ => true
    | _ :: rest => meansHome rest
    | [] => false
  text.any isMeaningful || text.startsWith "~" || text.startsWith "#" || meansHome text.toList

/-- A text in quotes of whatever kind it needs, even if it needs none. -/
def always (text : String) : String := if needsNames text then named text else single text

/-- A value as it is listed: in quotes only if it needs them. -/
def value (text : String) : String :=
  if needsNames text then named text else if needsQuotes text then single text else text

/-- A value as a declaration shows it. -/
def declared (text : String) : String := if needsNames text then named text else double text

/-- A word of a command that is shown before it is carried out. -/
def traced (text : String) : String :=
  if text.isEmpty then "''"
  else if needsQuotes text then single text
  else if needsNames text then named text
  else text

/-- A text with a backslash before each character of meaning. -/
def backslashed (text : String) : String :=
  if text.isEmpty then "''"
  else if needsNames text then named text
  else
    let protect (c : Char) : String :=
      if isMeaningful c || c == ',' then "\\" ++ String.ofList [c] else String.ofList [c]
    let lead := if text.startsWith "~" || text.startsWith "#" then "\\" else ""
    lead ++ String.join (text.toList.map protect)

end RunMeter.Shell.Quoting
