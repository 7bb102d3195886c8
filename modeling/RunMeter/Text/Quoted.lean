import RunMeter.Text.Printable

/-!
# Quoted text

Messages show foreign text between double quotes so that its ends and its invisible characters can
be seen. Quotes and backslashes are escaped, the common control characters have short names, and
any other character that does not stand alone on the page is written as its code point between
braces.
-/

set_option autoImplicit false

namespace RunMeter.Text

/-- The lower-case hexadecimal digits of a number. -/
def hexDigits (n : Nat) : String := String.ofList (Nat.toDigits 16 n)

/-- One character as it appears inside quotes. -/
def quoteChar (c : Char) : String :=
  match c with
  | '"' => "\\\""
  | '\\' => "\\\\"
  | '\n' => "\\n"
  | '\r' => "\\r"
  | '\t' => "\\t"
  | '\x00' => "\\0"
  | c => if isPrintable c then c.toString else "\\u\x7b" ++ hexDigits c.toNat ++ "\x7d"

/-- A text between quotes. -/
def quote (text : String) : String :=
  "\"" ++ String.join (text.toList.map quoteChar) ++ "\""

end RunMeter.Text
