import PageTemplate.Decimal.Digits
import PageTemplate.Yaml.Cursor

/-!
# Scalars of YAML

The text of a scalar in each of its styles: plain, between quotation marks, and as an indented
block. Lines within plain and quoted scalars are folded: a single line break reads as a blank, and
of several the first is left out.

## Main definitions

* `PageTemplate.Yaml.Gap` — blanks and line breaks between the words of a scalar.
* `PageTemplate.Yaml.readQuoted`, `PageTemplate.Yaml.readPlain`, `PageTemplate.Yaml.readBlock` —
  the text of a scalar, and the cursor after it.
-/

namespace PageTemplate.Yaml

/-! ### Folding -/

/-- What stands between two words of a scalar: blanks, or line breaks, of which the first and the
others are kept apart. -/
structure Gap where
  broken : Bool
  blanks : Text
  first : Text
  others : Text

namespace Gap

/-- Nothing between two words. -/
def none : Gap := ⟨false, [], [], []⟩

/-- What a gap reads as. -/
def fold (g : Gap) : Text :=
  if g.broken then
    if g.first.head? == some '\n' then if g.others.isEmpty then [' '] else g.others
    else g.first ++ g.others
  else g.blanks

/-- Reads blanks and line breaks onto a gap. In the indentation of a line that is less than
`indent` wide a tab is refused. -/
def read (indent : Nat) : Nat → Gap → Cursor → Except Fault (Gap × Cursor)
  | 0, g, c => .ok (g, c)
  | fuel + 1, g, c =>
    match c.peek with
    | some ch =>
      if isBlank ch then
        if g.broken && c.column < indent && ch == '\t' then .error .tabIndentation
        else
          let g := if g.broken then g else { g with blanks := g.blanks ++ [ch] }
          read indent fuel g (c.skip 1)
      else if isBreak ch then
        let (text, c) := c.takeBreak
        let g :=
          if g.broken then { g with others := g.others ++ text }
          else { g with broken := true, blanks := [], first := text }
        read indent fuel g c
      else .ok (g, c)
    | Option.none => .ok (g, c)

end Gap

/-! ### Quoted scalars -/

/-- The character that a backslash and another character stand for. -/
def escaped? : Char → Option Char
  | '0' => some '\x00'
  | 'a' => some '\x07'
  | 'b' => some '\x08'
  | 't' => some '\t'
  | '\t' => some '\t'
  | 'n' => some '\n'
  | 'v' => some '\x0b'
  | 'f' => some '\x0c'
  | 'r' => some '\r'
  | 'e' => some '\x1b'
  | ' ' => some ' '
  | '"' => some '"'
  | '/' => some '/'
  | '\\' => some '\\'
  | 'N' => some '\x85'
  | '_' => some '\xa0'
  | 'L' => some '\u2028'
  | 'P' => some '\u2029'
  | _ => none

/-- How many hexadecimal digits follow a backslash and another character. -/
def hexLength? : Char → Option Nat
  | 'x' => some 2
  | 'u' => some 4
  | 'U' => some 8
  | _ => none

/-- The character of an escape sequence that begins with a backslash, and the cursor after it. -/
def readEscape (c : Cursor) : Except Fault (Char × Cursor) := do
  let some kind := c.peekAt 1 | throw .badEscape
  match hexLength? kind with
  | some length =>
    let digits := (c.rest.drop 2).take length
    let some code := Decimal.readNat? 16 digits | throw .badEscape
    if digits.length < length || !code.isValidChar then throw .badEscape
    return (Char.ofNat code, c.skip (2 + length))
  | none =>
    let some ch := escaped? kind | throw .badEscape
    return (ch, c.skip 2)

/-- Reads a word of a quoted scalar: up to a blank, a line break or the closing mark. The flag
tells whether the word ends with an escaped line break. -/
def readQuotedWord (quote : Char) : Nat → Cursor → Except Fault (Text × Bool × Cursor)
  | 0, c => .ok ([], false, c)
  | fuel + 1, c =>
    match c.peek with
    | none => .ok ([], false, c)
    | some ch => do
      if isBlank ch || isBreak ch then return ([], false, c)
      if quote == '\'' && ch == '\'' && c.peekAt 1 == some '\'' then
        let (text, broken, c) ← readQuotedWord quote fuel (c.skip 2)
        return ('\'' :: text, broken, c)
      if ch == quote then return ([], false, c)
      if quote == '"' && ch == '\\' then
        if (c.peekAt 1).any isBreak then return ([], true, ((c.skip 1).takeBreak).2)
        let (escaped, c) ← readEscape c
        let (text, broken, c) ← readQuotedWord quote fuel c
        return (escaped :: text, broken, c)
      let (text, broken, c) ← readQuotedWord quote fuel (c.skip 1)
      return (ch :: text, broken, c)

/-- The words and gaps of a quoted scalar up to its closing mark. -/
def readQuotedBody (quote : Char) : Nat → Cursor → Except Fault (Text × Cursor)
  | 0, _ => .error .unclosedQuotes
  | fuel + 1, c => do
    if c.atDocumentMark then throw .markInQuotes
    if c.rest.isEmpty then throw .unclosedQuotes
    let (word, broken, c) ← readQuotedWord quote (c.rest.length + 1) c
    if c.sees quote then return (word, c.skip 1)
    let (gap, c) ← Gap.read 0 (c.rest.length + 1) { Gap.none with broken } c
    let (text, c) ← readQuotedBody quote fuel c
    return (word ++ gap.fold ++ text, c)

/-- A scalar between quotation marks, and the cursor after it. -/
def readQuoted (quote : Char) (c : Cursor) : Except Fault (Text × Cursor) :=
  readQuotedBody quote (c.rest.length + 1) (c.skip 1)

/-! ### Plain scalars -/

/-- The characters that separate the parts of a collection in brackets or braces. -/
def isFlowIndicator (ch : Char) : Bool :=
  ch == ',' || ch == '[' || ch == ']' || ch == '\x7b' || ch == '\x7d'

/-- Reads a word of a plain scalar, within brackets or braces if `flow` holds. A colon before a
blank ends the scalar, and so does an indicator within brackets or braces. -/
def readPlainWord (flow : Bool) : Nat → Cursor → Except Fault (Text × Cursor)
  | 0, c => .ok ([], c)
  | fuel + 1, c =>
    match c.peek with
    | none => .ok ([], c)
    | some ch => do
      if isBlank ch || isBreak ch then return ([], c)
      let next := c.peekAt 1
      if flow && ch == ':' && next.any (fun next => isFlowIndicator next || next == '?') then
        throw .unexpectedColon
      if (ch == ':' && c.blankOrEndAt 1) || (flow && isFlowIndicator ch) then return ([], c)
      let (text, c) ← readPlainWord flow fuel (c.skip 1)
      return (ch :: text, c)

/-- Reads the words and gaps of a plain scalar whose lines are indented by `indent`. The gap before
the next word is given; the last one is given back. -/
def readPlainBody (flow : Bool) (indent : Nat) : Nat → Gap → Cursor →
    Except Fault (Text × Gap × Cursor)
  | 0, gap, c => .ok ([], gap, c)
  | fuel + 1, gap, c => do
    if c.atDocumentMark || c.sees '#' then return ([], gap, c)
    let (word, c) ← readPlainWord flow (c.rest.length + 1) c
    let (front, gap) := if word.isEmpty then ([], gap) else (gap.fold ++ word, Gap.none)
    if !c.peek.any (fun ch => isBlank ch || isBreak ch) then return (front, gap, c)
    let (gap, c) ← Gap.read indent (c.rest.length + 1) gap c
    if !flow && c.column < indent then return (front, gap, c)
    let (back, gap, c) ← readPlainBody flow indent fuel gap c
    return (front ++ back, gap, c)

/-- A plain scalar, whether a line break follows it, and the cursor after it. -/
def readPlain (flow : Bool) (indent : Nat) (c : Cursor) : Except Fault (Text × Bool × Cursor) := do
  let (text, gap, c) ← readPlainBody flow indent (c.rest.length + 1) Gap.none c
  return (text, gap.broken, c)

/-! ### Blocks of text -/

/-- What happens to the line breaks at the end of a block. -/
inductive Chomp where
  | strip
  | clip
  | keep
deriving DecidableEq

/-- A chomping sign, if one comes next. -/
def readChomp (c : Cursor) : Option Chomp × Cursor :=
  if c.sees '+' then (some .keep, c.skip 1)
  else if c.sees '-' then (some .strip, c.skip 1)
  else (none, c)

/-- An indentation of one digit, if one comes next. -/
def readIncrement (c : Cursor) : Except Fault (Option Nat × Cursor) :=
  match c.peek with
  | some ch =>
    if ch == '0' then .error .badBlockHeader
    else if ch.isDigit then .ok (some (ch.toNat - '0'.toNat), c.skip 1)
    else .ok (none, c)
  | none => .ok (none, c)

/-- The header of a block after its indicator, up to the end of its line: a sign and a digit in
either order. -/
def readBlockHeader (c : Cursor) : Except Fault (Chomp × Option Nat × Cursor) := do
  let (before, c) := readChomp c
  let (increment, c) ← readIncrement c
  let (after, c) := if before.isNone then readChomp c else (none, c)
  let c := c.skipLineEnd
  if !c.breakOrEnd then throw .badBlockHeader
  return ((before.or after).getD .clip, increment, c.takeBreak.2)

/-- Reads the empty lines before a line of a block, and the indentation of that line up to `indent`
if it is known: the line breaks, the greatest column reached, and the cursor. -/
def readBlockBreaks (indent : Option Nat) : Nat → Cursor → Except Fault (Text × Nat × Cursor)
  | 0, c => .ok ([], c.column, c)
  | fuel + 1, c => do
    let width := (c.rest.takeWhile (· == ' ')).length
    let c := c.skip (indent.elim width fun indent => min width (indent - c.column))
    if c.sees '\t' && indent.all (c.column < ·) then throw .tabIndentation
    if !c.peek.any isBreak then return ([], c.column, c)
    let (text, after) := c.takeBreak
    let (breaks, column, after) ← readBlockBreaks indent fuel after
    return (text ++ breaks, max c.column column, after)

/-- The lines of a block: `lead` is the break before the next line, `breaks` are the empty lines
after it, and `blank` tells whether the line before began with a blank. Gives the text, and the
last break and the empty lines after the text. -/
def readBlockLines (literal : Bool) (indent : Nat) : Nat → Text → Text → Bool → Cursor →
    Except Fault (Text × Text × Text × Cursor)
  | 0, lead, breaks, _, c => .ok ([], lead, breaks, c)
  | fuel + 1, lead, breaks, blank, c => do
    if c.column != indent || c.rest.isEmpty then return ([], lead, breaks, c)
    let nextBlank := c.peek.any isBlank
    let folded := !literal && lead.head? == some '\n' && !blank && !nextBlank
    let joint := if !folded then lead else if breaks.isEmpty then [' '] else []
    let line := c.rest.takeWhile fun ch => !isBreak ch
    let (newLead, c) := (c.skip line.length).takeBreak
    let (newBreaks, _, c) ← readBlockBreaks (some indent) (c.rest.length + 1) c
    let (text, lead, last, c) ← readBlockLines literal indent fuel newLead newBreaks nextBlank c
    return (joint ++ breaks ++ line ++ text, lead, last, c)

/-- A block of text after its indicator, within a collection indented by `parent`, which is -1
outside all collections. -/
def readBlock (literal : Bool) (parent : Int) (c : Cursor) : Except Fault (Text × Cursor) := do
  let (chomp, increment, c) ← readBlockHeader c
  let known := increment.map fun n => (max parent 0).toNat + n
  let (breaks, column, c) ← readBlockBreaks known (c.rest.length + 1) c
  let indent := known.getD (max (max column (parent + 1).toNat) 1)
  let (text, lead, last, c) ← readBlockLines literal indent (c.rest.length + 1) [] breaks false c
  let lead := if chomp == .strip then [] else lead
  let last := if chomp == .keep then last else []
  return (text ++ lead ++ last, c)

end PageTemplate.Yaml
