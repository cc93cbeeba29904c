import PageTemplate.Text.Basic
import PageTemplate.Text.CaseTable

/-!
# Upper and lower case

The full case mappings of Unicode, without regard to a language: a character may become several
(`ß` becomes `SS`), and a capital sigma at the end of a word becomes `ς`, elsewhere `σ`.

## Main definitions

* `PageTemplate.Text.toUpper`, `PageTemplate.Text.toLower` — the mappings of a text.
* `PageTemplate.Text.atWordEnd` — whether a sigma between two texts ends a word.
-/

namespace PageTemplate.Text

open CaseTable

/-- The image of a character beyond ASCII under a table of sequences and one of single
characters. -/
private def mapCase (sequences : List (Nat × List Nat)) (ranges : List CaseRange) (c : Char) :
    Text :=
  match sequences.lookup c.toNat with
  | some codes => codes.map Char.ofNat
  | none =>
    match CaseTable.lookup ranges c.toNat with
    | some code => [Char.ofNat code]
    | none => [c]

/-- The upper case of one character. -/
def upperOf (c : Char) : Text :=
  if c.toNat < 0x80 then [c.toUpper] else mapCase upperSequences upperRanges c

/-- The lower case of one character, a capital sigma within a word included. -/
def lowerOf (c : Char) : Text :=
  if c.toNat < 0x80 then [c.toLower] else mapCase lowerSequences lowerRanges c

/-- The property `Cased`. -/
def isCased (c : Char) : Bool :=
  if c.toNat < 0x80 then c.isAlpha else inRanges casedRanges c.toNat

/-- The property `Case_Ignorable`. -/
def isCaseIgnorable (c : Char) : Bool :=
  if c.toNat < 0x80 then ['\'', '.', ':', '^', '\x60'].contains c
  else inRanges ignorableRanges c.toNat

/-- Whether the first character that counts for case is a letter with case. -/
def startsCased (s : Text) : Bool :=
  match s.dropWhile isCaseIgnorable with
  | c :: _ => isCased c
  | [] => false

/-- Whether a place ends a word: a letter with case comes before it and none follows.
The text before the place is given from the place backwards. -/
def atWordEnd (before after : Text) : Bool :=
  startsCased before && !startsCased after

/-- The text in upper case. -/
def toUpper (s : Text) : Text :=
  s.flatMap upperOf

/-- The text in lower case, after the characters `before` (the nearest first). -/
def lowerAfter (before : Text) : Text → Text
  | [] => []
  | c :: s =>
    (if c = 'Σ' then [if atWordEnd before s then 'ς' else 'σ'] else lowerOf c)
      ++ lowerAfter (c :: before) s

/-- The text in lower case. -/
def toLower (s : Text) : Text :=
  lowerAfter [] s

/-- Upper case distributes over concatenation. -/
theorem toUpper_append (s t : Text) : toUpper (s ++ t) = toUpper s ++ toUpper t := by
  simp [toUpper]

end PageTemplate.Text
