import PageTemplate.Decimal.Notation
import PageTemplate.Json.Basic

/-!
# Writing JSON documents

A document is written on one line without blanks. Strings escape the quotation mark, the backslash
and the control characters of ASCII, nothing else.

## Main definitions

* `PageTemplate.Json.realNotation` — how floating-point numbers are written.
* `PageTemplate.Json.write` — the text of a document.
-/

namespace PageTemplate.Json

/-- Floating-point numbers keep a `.0`, are written out in full from `1e-5` up to below `1e+16`,
and go to the even neighbour where two decimals are equally near. -/
def realNotation : Decimal.Notation :=
  ⟨some (-5, 15), true, .toEven⟩

/-- The digits of a number below 256 in hexadecimal, two of them. -/
private def twoHexDigits (n : Nat) : Text :=
  [Nat.digitChar (n / 16), Nat.digitChar (n % 16)]

/-- One character within a string. -/
def escapeChar (c : Char) : Text :=
  match c with
  | '"' => "\\\""
  | '\\' => "\\\\"
  | '\x08' => "\\b"
  | '\t' => "\\t"
  | '\n' => "\\n"
  | '\x0c' => "\\f"
  | '\r' => "\\r"
  | c => if c.toNat < 0x20 then "\\u00" ++ twoHexDigits c.toNat else [c]

/-- A string between quotation marks. -/
def writeString (s : Text) : Text :=
  "\"" ++ s.flatMap escapeChar ++ "\""

/-- A number. -/
def Number.write : Number → Text
  | .whole n _ => Decimal.ofInt n
  | .real x _ => realNotation.write x

mutual

/-- The text of a document. -/
def write : Json → Text
  | .null => "null"
  | .bool true => "true"
  | .bool false => "false"
  | .number n => n.write
  | .string s => writeString s
  | .array items => "[" ++ Text.join "," (writeItems items) ++ "]"
  | .object members => "\x7b" ++ Text.join "," (writeMembers members) ++ "\x7d"

/-- The texts of the items of an array. -/
def writeItems : List Json → List Text
  | [] => []
  | item :: items => write item :: writeItems items

/-- The texts of the members of an object. -/
def writeMembers : List (Text × Json) → List Text
  | [] => []
  | (key, value) :: members => (writeString key ++ ":" ++ write value) :: writeMembers members

end

end PageTemplate.Json
