import PageTemplate.Yaml.Scalar

/-!
# Tokens of YAML

A text is cut into tokens. Indentation opens and closes lists and mappings, which shows as tokens
of their own. Whether a scalar or a collection is a key is known only when its colon comes; until
then its place among the tokens is kept, and the colon puts the missing tokens there.

## Main definitions

* `PageTemplate.Yaml.Token` — the parts of a text.
* `PageTemplate.Yaml.Scanner` — the tokens found so far and what the next ones depend on.
* `PageTemplate.Yaml.tokenize` — the tokens of a text.
-/

namespace PageTemplate.Yaml

/-- A part of a text. Lists and mappings are either indented, with a token at each end, or in
brackets and braces. -/
inductive Token where
  | version (major minor : Nat)
  | documentStart
  | documentEnd
  | listStart
  | mappingStart
  | blockEnd
  | openBracket
  | closeBracket
  | openBrace
  | closeBrace
  | entry
  | comma
  | key
  | value
  | scalar (text : Text) (plain : Bool)
deriving DecidableEq

/-- A token that may turn out to begin a key: its place among the tokens and in the text, and
whether nothing but a key may stand there. -/
structure PossibleKey where
  required : Bool
  position : Nat
  index : Nat
  line : Nat
  column : Nat

/-- The tokens found so far. `indent` is the indentation of the innermost list or mapping, -1
outside all of them, with those around it in `indents`; `possibleKey` belongs to the innermost
brackets or braces, those around it are in `outerKeys`. -/
structure Scanner where
  cursor : Cursor
  tokens : List Token
  indent : Int
  indents : List Int
  keyAllowed : Bool
  possibleKey : Option PossibleKey
  outerKeys : List (Option PossibleKey)

namespace Scanner

/-- The beginning of a text. -/
def ofText (s : Text) : Scanner :=
  ⟨Cursor.ofText s, [], -1, [], true, none, []⟩

/-- Whether the place is within brackets or braces. -/
def inFlow (s : Scanner) : Bool :=
  !s.outerKeys.isEmpty

/-- One more token. -/
def emit (s : Scanner) (t : Token) : Scanner :=
  { s with tokens := s.tokens ++ [t] }

/-- One more token, of `n` characters. -/
def emitOver (s : Scanner) (n : Nat) (t : Token) : Scanner :=
  { s.emit t with cursor := s.cursor.skip n }

/-! ### Possible keys -/

/-- Gives up a possible key; where a key is required this is a fault. -/
def giveUp : Option PossibleKey → Except Fault Unit
  | some k => if k.required then .error .missingColon else .ok ()
  | none => .ok ()

/-- Whether a possible key is out of reach of a colon: on an earlier line, or more than 1024
characters back. -/
def isStale (c : Cursor) (k : PossibleKey) : Bool :=
  k.line < c.line || k.index + 1024 < c.index

/-- A possible key, unless it is out of reach of a colon. -/
def freshen (c : Cursor) (k : Option PossibleKey) : Except Fault (Option PossibleKey) :=
  if k.any (isStale c) then do
    giveUp k
    return none
  else .ok k

/-- Gives up all possible keys that are out of reach of a colon. -/
def dropStale (s : Scanner) : Except Fault Scanner := do
  let outerKeys ← s.outerKeys.mapM (freshen s.cursor)
  let possibleKey ← freshen s.cursor s.possibleKey
  return { s with possibleKey, outerKeys }

/-- Gives up the possible key at hand. -/
def dropKey (s : Scanner) : Except Fault Scanner := do
  giveUp s.possibleKey
  return { s with possibleKey := none }

/-- Notes that the next token may begin a key, if a key is allowed. -/
def noteKey (s : Scanner) : Except Fault Scanner := do
  if !s.keyAllowed then return s
  giveUp s.possibleKey
  let c := s.cursor
  let required := !s.inFlow && s.indent == c.column
  return { s with possibleKey := some ⟨required, s.tokens.length, c.index, c.line, c.column⟩ }

/-! ### Indentation -/

/-- Opens a list or mapping if the column lies right of the indentation; its token goes to a
position among the tokens. -/
def openBlock (s : Scanner) (column : Nat) (position : Nat) (t : Token) : Scanner :=
  if !s.inFlow && s.indent < column then
    { s with
      indent := column
      indents := s.indent :: s.indents
      tokens := s.tokens.insertIdx position t }
  else s

/-- Closes the lists and mappings that are indented further than the column, the indentations
around the innermost one being `indents`. -/
def closeTo (column : Int) : Int → List Int → List Token → Int × List Int × List Token
  | indent, [], tokens => (indent, [], tokens)
  | indent, outer :: indents, tokens =>
    if column < indent then closeTo column outer indents (tokens ++ [.blockEnd])
    else (indent, outer :: indents, tokens)

/-- Closes the lists and mappings that are indented further than the column. -/
def closeBlocks (s : Scanner) (column : Int) : Scanner :=
  if s.inFlow then s
  else
    let (indent, indents, tokens) := closeTo column s.indent s.indents s.tokens
    { s with indent, indents, tokens }

/-! ### From token to token -/

/-- Skips blanks, comments and line breaks. A tab counts as a blank only where no key may begin;
after a line break outside brackets and braces a key may begin. -/
def skipToToken : Nat → Scanner → Scanner
  | 0, s => s
  | fuel + 1, s =>
    let c := s.cursor
    let c := if c.column == 0 && c.sees '\uFEFF' then c.skip 1 else c
    let c := c.skipWhile fun ch => ch == ' ' || (ch == '\t' && (s.inFlow || !s.keyAllowed))
    let c := if c.sees '#' then c.skipWhile fun ch => !isBreak ch else c
    if c.peek.any isBreak then
      skipToToken fuel { s with cursor := c.takeBreak.2, keyAllowed := s.keyAllowed || !s.inFlow }
    else { s with cursor := c }

/-- Closes everything that is open, as at the end of a document. -/
def closeDocument (s : Scanner) : Except Fault Scanner := do
  let s ← (s.closeBlocks (-1)).dropKey
  return { s with keyAllowed := false }

/-- A directive. Only the version of the language may be declared: 1.1 or 1.2 by its numbers. -/
def readDirective (s : Scanner) : Except Fault Scanner := do
  let s ← s.closeDocument
  let c := s.cursor
  let some _ := Text.dropPrefix? "%YAML" c.rest | throw .badDirective
  let c := c.skip 5
  if !c.blankOrEndAt 0 then throw .badDirective
  let c := c.skipWhile isBlank
  let major := c.rest.takeWhile Char.isDigit
  let c := c.skip major.length
  if !c.sees '.' then throw .badDirective
  let c := c.skip 1
  let minor := c.rest.takeWhile Char.isDigit
  let c := c.skip minor.length
  if major.isEmpty || minor.isEmpty || major.length > 9 || minor.length > 9 then throw .badDirective
  let c := c.skipLineEnd
  if !c.breakOrEnd then throw .badDirective
  let s := s.emit (.version (Decimal.value major) (Decimal.value minor))
  return { s with cursor := c.takeBreak.2 }

/-- A bracket or brace that opens a collection. -/
def openFlow (s : Scanner) (t : Token) : Except Fault Scanner := do
  let s ← s.noteKey
  return { s.emitOver 1 t with
    possibleKey := none
    outerKeys := s.possibleKey :: s.outerKeys
    keyAllowed := true }

/-- A bracket or brace that closes a collection. -/
def closeFlow (s : Scanner) (t : Token) : Except Fault Scanner := do
  let s ← s.dropKey
  let s :=
    match s.outerKeys with
    | [] => s
    | k :: outerKeys => { s with possibleKey := k, outerKeys }
  return { s.emitOver 1 t with keyAllowed := false }

/-- A comma between brackets or braces. -/
def readComma (s : Scanner) : Except Fault Scanner := do
  let s ← s.dropKey
  return { s.emitOver 1 .comma with keyAllowed := true }

/-- The hyphen of an entry of an indented list. -/
def readEntry (s : Scanner) : Except Fault Scanner := do
  if !s.inFlow && !s.keyAllowed then throw .misplacedEntry
  let s ← (s.openBlock s.cursor.column s.tokens.length .listStart).dropKey
  return { s.emitOver 1 .entry with keyAllowed := true }

/-- The question mark before a key. -/
def readKey (s : Scanner) : Except Fault Scanner := do
  if !s.inFlow && !s.keyAllowed then throw .misplacedKey
  let s ← (s.openBlock s.cursor.column s.tokens.length .mappingStart).dropKey
  return { s.emitOver 1 .key with keyAllowed := !s.inFlow }

/-- The colon before a value. What was noted as a possible key is one now. -/
def readValue (s : Scanner) : Except Fault Scanner := do
  match s.possibleKey with
  | some k =>
    let s := { s with tokens := s.tokens.insertIdx k.position .key, possibleKey := none }
    let s := s.openBlock k.column k.position .mappingStart
    return { s.emitOver 1 .value with keyAllowed := false }
  | none =>
    if !s.inFlow && !s.keyAllowed then throw .misplacedValue
    let s := s.openBlock s.cursor.column s.tokens.length .mappingStart
    return { s.emitOver 1 .value with keyAllowed := !s.inFlow }

/-- A scalar between quotation marks. -/
def readQuotedScalar (s : Scanner) (quote : Char) : Except Fault Scanner := do
  let s ← s.noteKey
  let (text, cursor) ← readQuoted quote s.cursor
  return { s.emit (.scalar text false) with cursor, keyAllowed := false }

/-- A plain scalar. A key may follow on the next line. -/
def readPlainScalar (s : Scanner) : Except Fault Scanner := do
  let s ← s.noteKey
  let (text, broken, cursor) ← readPlain s.inFlow (s.indent + 1).toNat s.cursor
  return { s.emit (.scalar text true) with cursor, keyAllowed := broken }

/-- A block of text. -/
def readBlockScalar (s : Scanner) (literal : Bool) : Except Fault Scanner := do
  let s ← s.dropKey
  let (text, cursor) ← readBlock literal s.indent (s.cursor.skip 1)
  return { s.emit (.scalar text false) with cursor, keyAllowed := true }

/-- The blanks and the characters that begin no plain scalar, unless a hyphen, a question mark or a
colon is followed by something else than a blank. -/
def isIndicator (ch : Char) : Bool :=
  isBlank ch || "-?:,[]\x7b\x7d#&*!|>'\"%@\x60".toList.contains ch

/-- Whether a plain scalar begins here. -/
def startsPlain (s : Scanner) (ch : Char) : Bool :=
  !isIndicator ch
    || (ch == '-' && !(s.cursor.peekAt 1).any isBlank)
    || (!s.inFlow && (ch == '?' || ch == ':') && !s.cursor.blankOrEndAt 1)

/-- The next token, which begins with the given character. -/
def readToken (s : Scanner) (ch : Char) : Except Fault Scanner := do
  let c := s.cursor
  if c.column == 0 && ch == '%' then s.readDirective
  else if c.atMark '-' then return (← s.closeDocument).emitOver 3 .documentStart
  else if c.atMark '.' then return (← s.closeDocument).emitOver 3 .documentEnd
  else if ch == '[' then s.openFlow .openBracket
  else if ch == '\x7b' then s.openFlow .openBrace
  else if ch == ']' then s.closeFlow .closeBracket
  else if ch == '\x7d' then s.closeFlow .closeBrace
  else if ch == ',' then s.readComma
  else if ch == '-' && c.blankOrEndAt 1 then s.readEntry
  else if ch == '?' && (s.inFlow || c.blankOrEndAt 1) then s.readKey
  else if ch == ':' && (s.inFlow || c.blankOrEndAt 1) then s.readValue
  else if ch == '*' || ch == '&' || ch == '!' then throw .notSupported
  else if (ch == '|' || ch == '>') && !s.inFlow then s.readBlockScalar (ch == '|')
  else if ch == '\'' || ch == '"' then s.readQuotedScalar ch
  else if s.startsPlain ch then s.readPlainScalar
  else throw .unexpectedCharacter

/-- All tokens from here on. -/
def readAll : Nat → Scanner → Except Fault (List Token)
  | 0, s => .ok s.tokens
  | fuel + 1, s => do
    let s ← (skipToToken (s.cursor.rest.length + 1) s).dropStale
    let s := s.closeBlocks s.cursor.column
    match s.cursor.peek with
    | some ch => readAll fuel (← s.readToken ch)
    | none =>
      let c := s.cursor
      let line := if c.column == 0 then c.line else c.line + 1
      let s ← { s with cursor := { c with line, column := 0 } }.closeDocument
      return s.tokens

end Scanner

/-- The tokens of a text. Every token takes at least one character. -/
def tokenize (s : Text) : Except Fault (List Token) :=
  if s.all isAllowed then (Scanner.ofText s).readAll (s.length + 1) else .error .controlCharacter

end PageTemplate.Yaml
