import PageTemplate.Text.Basic
import PageTemplate.Text.HiddenTable

/-!
# Quoted text

A text as it is shown in listings and messages: between double quotation marks, with escapes for
the characters that would end the quotation or that a reader could not see.

## Main definitions

* `PageTemplate.Text.quoted` — the text between quotation marks.
* `PageTemplate.Text.isHidden` — the characters that are shown by their code point.
-/

namespace PageTemplate.Text

/-- A control character, or a character beyond ASCII without a shape of its own. -/
def isHidden (c : Char) : Bool :=
  let n := c.toNat
  n < 0x20 || n == 0x7F
    || (0x80 ≤ n && HiddenTable.ranges.any fun (first, last) => first ≤ n && n ≤ last)

/-- The digits of a code point in lower-case hexadecimal. -/
def hexDigits (n : Nat) : Text :=
  Nat.toDigits 16 n

/-- One character within a quotation. -/
def quoteChar (c : Char) : Text :=
  match c with
  | '\x00' => "\\0"
  | '\t' => "\\t"
  | '\n' => "\\n"
  | '\r' => "\\r"
  | '"' => "\\\""
  | '\\' => "\\\\"
  | c => if isHidden c then "\\u\x7b" ++ hexDigits c.toNat ++ "\x7d" else [c]

/-- The text between double quotation marks. -/
def quoted (s : Text) : Text :=
  "\"" ++ s.flatMap quoteChar ++ "\""

end PageTemplate.Text
