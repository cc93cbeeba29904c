import PageTemplate.Text.Basic

/-!
# Reading a YAML text from left to right

## Main definitions

* `PageTemplate.Yaml.Fault` — why a text is no YAML document, or not the one that is asked for.
* `PageTemplate.Yaml.Cursor` — the text still to be read, with the place reached.
* `PageTemplate.Yaml.Cursor.takeBreak` — a line break, normalized.
-/

namespace PageTemplate.Yaml

/-- Why a text is no YAML document, or not the one that is asked for. -/
inductive Fault where
  | controlCharacter
  | unexpectedCharacter
  | missingColon
  | misplacedEntry
  | misplacedKey
  | misplacedValue
  | unexpectedColon
  | tabIndentation
  | badBlockHeader
  | badEscape
  | badDirective
  | markInQuotes
  | unclosedQuotes
  | notSupported
  | expected (what : Text)
  | severalDocuments
  | numberTooLarge
  | tooDeep
  | unfit (what : Text)
deriving DecidableEq

/-- The wording of a fault. -/
def Fault.message : Fault → Text
  | .controlCharacter => "control characters are not allowed"
  | .unexpectedCharacter => "a character that cannot start any token"
  | .missingColon => "a key on several lines or without a colon"
  | .misplacedEntry => "a list entry is not allowed here"
  | .misplacedKey => "a mapping key is not allowed here"
  | .misplacedValue => "a mapping value is not allowed here"
  | .unexpectedColon => "an unexpected colon"
  | .tabIndentation => "a tab in the indentation"
  | .badBlockHeader => "a malformed header of a block of text"
  | .badEscape => "an unknown escape sequence"
  | .badDirective => "a malformed directive"
  | .markInQuotes => "a document mark between quotation marks"
  | .unclosedQuotes => "a missing quotation mark"
  | .notSupported => "anchors, aliases and tags are not supported"
  | .expected what => "expected " ++ what
  | .severalDocuments => "more than one document"
  | .numberTooLarge => "an integer out of range"
  | .tooDeep => "collections are nested too deeply"
  | .unfit what => "expected " ++ what

/-- A character that ends a line. -/
def isBreak (c : Char) : Bool :=
  c == '\n' || c == '\r' || c == '\x85' || c == '\u2028' || c == '\u2029'

/-- A space or a tab. -/
def isBlank (c : Char) : Bool :=
  c == ' ' || c == '\t'

/-- The characters that a text may consist of. -/
def isAllowed (c : Char) : Bool :=
  let n := c.toNat
  n == 0x09 || n == 0x0A || n == 0x0D || (0x20 ≤ n && n ≤ 0x7E) || n == 0x85
    || (0xA0 ≤ n && n ≤ 0xD7FF) || (0xE000 ≤ n && n ≤ 0xFFFD) || 0x10000 ≤ n

/-- The text still to be read; the number of characters read, and line and column, from zero. -/
structure Cursor where
  rest : Text
  index : Nat
  line : Nat
  column : Nat

namespace Cursor

/-- The beginning of a text. -/
def ofText (s : Text) : Cursor := ⟨s, 0, 0, 0⟩

/-- The next character. -/
def peek (c : Cursor) : Option Char :=
  c.rest.head?

/-- The character `k` places after the next one. -/
def peekAt (c : Cursor) (k : Nat) : Option Char :=
  c.rest[k]?

/-- Whether the next character is `ch`. -/
def sees (c : Cursor) (ch : Char) : Bool :=
  c.peek == some ch

/-- Whether a blank, a line break or the end is `k` places ahead. -/
def blankOrEndAt (c : Cursor) (k : Nat) : Bool :=
  (c.peekAt k).all fun ch => isBlank ch || isBreak ch

/-- Whether a line break or the end comes next. -/
def breakOrEnd (c : Cursor) : Bool :=
  c.peek.all isBreak

/-- The cursor after `n` characters within a line. -/
def skip (c : Cursor) (n : Nat) : Cursor :=
  ⟨c.rest.drop n, c.index + n, c.line, c.column + n⟩

/-- The cursor after the characters of a class that come next, all within a line. -/
def skipWhile (c : Cursor) (p : Char → Bool) : Cursor :=
  c.skip (c.rest.takeWhile p).length

/-- A line break, if one comes next, and the cursor after it. A carriage return with a line feed is
one break; every break but U+2028 and U+2029 reads as a line feed. -/
def takeBreak (c : Cursor) : Text × Cursor :=
  match c.rest with
  | '\r' :: '\n' :: rest => (['\n'], ⟨rest, c.index + 2, c.line + 1, 0⟩)
  | ch :: rest =>
    if ch == '\u2028' || ch == '\u2029' then ([ch], ⟨rest, c.index + 1, c.line + 1, 0⟩)
    else if isBreak ch then (['\n'], ⟨rest, c.index + 1, c.line + 1, 0⟩)
    else ([], c)
  | [] => ([], c)

/-- The cursor after the blanks and the comment at the end of a line. -/
def skipLineEnd (c : Cursor) : Cursor :=
  let c := c.skipWhile isBlank
  if c.sees '#' then c.skipWhile fun ch => !isBreak ch else c

/-- Whether a line begins here with three times the character, then a blank or the line's end. -/
def atMark (c : Cursor) (ch : Char) : Bool :=
  c.column == 0 && [ch, ch, ch].isPrefixOf c.rest && c.blankOrEndAt 3

/-- Whether a line begins here that starts or ends a document. -/
def atDocumentMark (c : Cursor) : Bool :=
  c.atMark '-' || c.atMark '.'

end Cursor

end PageTemplate.Yaml
