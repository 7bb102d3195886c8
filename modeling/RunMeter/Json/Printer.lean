import RunMeter.Json.Value
import RunMeter.Number.Layout
import RunMeter.Text.Quoted

/-!
# Writing JSON

Documents are written without spaces, members in their order. Characters are written as themselves
except quotes, backslashes and the control characters, and doubles have their shortest digits, which
are positional for 0.00001 and up to 10^16.
-/

set_option autoImplicit false

namespace RunMeter.Json

/-- One character inside a JSON string. -/
def escapeChar (c : Char) : String :=
  match c with
  | '"' => "\\\""
  | '\\' => "\\\\"
  | '\n' => "\\n"
  | '\r' => "\\r"
  | '\t' => "\\t"
  | '\x08' => "\\b"
  | '\x0c' => "\\f"
  | c =>
    if c.toNat < 0x20 then
      "\\u00" ++ (if c.toNat < 0x10 then "0" else "") ++ Text.hexDigits c.toNat
    else c.toString

/-- A JSON string. -/
def renderString (s : String) : String :=
  "\"" ++ String.join (s.toList.map escapeChar) ++ "\""

/-- Doubles show a point even if whole, and are positional from 0.00001 up to below 10^16. -/
def realLayout : Layout :=
  { leastPositional := some (-5)
    largestPositional := some 15
    wholeMark := ".0"
    infinity := "null"
    notANumber := "null" }

/-- A JSON number. -/
def renderNumber : JsonNumber → String
  | .natural n => toString n
  | .negative n => "-" ++ toString n
  | .real x => if x.isFinite then realLayout.render x else "null"

mutual

/-- A JSON value as text. -/
def render : Json → String
  | .null => "null"
  | .bool true => "true"
  | .bool false => "false"
  | .number n => renderNumber n
  | .string s => renderString s
  | .array items => "[" ++ ",".intercalate (renderItems items) ++ "]"
  | .object members => "\x7b" ++ ",".intercalate (renderMembers members) ++ "\x7d"

/-- The items of an array as texts. -/
def renderItems : List Json → List String
  | [] => []
  | item :: rest => render item :: renderItems rest

/-- The members of an object as texts. -/
def renderMembers : List (String × Json) → List String
  | [] => []
  | (key, value) :: rest => (renderString key ++ ":" ++ render value) :: renderMembers rest

end

end RunMeter.Json
