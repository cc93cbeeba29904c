import PageTemplate.Json.Number

/-!
# Reading JSON documents

A document is read to its end: blanks, one value, blanks. Of several members of one name the last
counts, in the place of the first. Containers may be nested up to a given depth.

## Main definitions

* `PageTemplate.Json.Fault` — why a text is no document.
* `PageTemplate.Json.read` — the document of a text.
* `PageTemplate.Json.depthLimit` — how deep the containers of a document may be nested.
-/

namespace PageTemplate.Json

/-- Why a text is no document. -/
inductive Fault where
  | endOfText
  | unexpected (c : Char)
  | controlCharacter
  | badEscape
  | loneSurrogate
  | numberTooLarge
  | tooDeep
deriving DecidableEq

/-- The wording of a fault. -/
def Fault.message : Fault → Text
  | .endOfText => "the document ends too early"
  | .unexpected c => "unexpected character " ++ [c]
  | .controlCharacter => "control character in a string"
  | .badEscape => "unknown escape sequence in a string"
  | .loneSurrogate => "half of a surrogate pair in a string"
  | .numberTooLarge => "number out of range"
  | .tooDeep => "containers are nested too deeply"

/-- The four blanks between the parts of a document. -/
def isSpace (c : Char) : Bool :=
  c == ' ' || c == '\t' || c == '\n' || c == '\r'

/-- The text after its leading blanks. -/
def skipSpace (s : Text) : Text :=
  s.dropWhile isSpace

/-- The fault of a text at a place where something else is required. -/
def faultAt : Text → Fault
  | [] => .endOfText
  | c :: _ => .unexpected c

/-! ### Strings -/

/-- A part of a string: a character, or a UTF-16 unit given by its number. -/
inductive Part where
  | char (c : Char)
  | unit (n : Nat)

/-- The character after a backslash, other than `u`. -/
def escaped? : Char → Option Char
  | '"' => some '"'
  | '\\' => some '\\'
  | '/' => some '/'
  | 'b' => some '\x08'
  | 'f' => some '\x0c'
  | 'n' => some '\n'
  | 'r' => some '\r'
  | 't' => some '\t'
  | _ => none

/-- The parts of a string up to its closing quotation mark. -/
def readParts : Text → Except Fault (List Part × Text)
  | [] => .error .endOfText
  | '"' :: rest => .ok ([], rest)
  | '\\' :: 'u' :: a :: b :: c :: d :: rest => do
    let some n := Decimal.readNat? 16 [a, b, c, d] | throw .badEscape
    let (parts, rest) ← readParts rest
    return (.unit n :: parts, rest)
  | '\\' :: e :: rest => do
    let some c := escaped? e | throw .badEscape
    let (parts, rest) ← readParts rest
    return (.char c :: parts, rest)
  | c :: rest => do
    if c.toNat < 0x20 then throw .controlCharacter
    if c == '\\' then throw .endOfText
    let (parts, rest) ← readParts rest
    return (.char c :: parts, rest)

/-- The characters of the parts; two units of a surrogate pair make one character. -/
def joinParts : List Part → Except Fault Text
  | [] => .ok []
  | .char c :: parts => return c :: (← joinParts parts)
  | .unit n :: .unit m :: parts =>
    if 0xD800 ≤ n ∧ n < 0xDC00 then
      if 0xDC00 ≤ m ∧ m < 0xE000 then do
        let code := 0x10000 + (n - 0xD800) * 0x400 + (m - 0xDC00)
        return Char.ofNat code :: (← joinParts parts)
      else .error .loneSurrogate
    else if 0xDC00 ≤ n ∧ n < 0xE000 then .error .loneSurrogate
    else return Char.ofNat n :: (← joinParts (.unit m :: parts))
  | .unit n :: parts =>
    if 0xD800 ≤ n ∧ n < 0xE000 then .error .loneSurrogate
    else return Char.ofNat n :: (← joinParts parts)

/-- A string after its opening quotation mark. -/
def readString (s : Text) : Except Fault (Text × Text) := do
  let (parts, rest) ← readParts s
  return (← joinParts parts, rest)

/-! ### Numbers -/

/-- One or more digits. -/
def readDigits (s : Text) : Except Fault (Text × Text) :=
  let digits := s.takeWhile Char.isDigit
  let rest := s.dropWhile Char.isDigit
  if digits.isEmpty then .error (faultAt rest) else .ok (digits, rest)

/-- The digits before the point: a zero alone, or digits that begin with none. -/
def readInteger (s : Text) : Except Fault (Text × Text) := do
  let (digits, rest) ← readDigits s
  match digits with
  | '0' :: c :: _ => throw (.unexpected c)
  | _ => return (digits, rest)

/-- A point and the digits after it, if there is a point. -/
def readFraction : Text → Except Fault (Option Text × Text)
  | '.' :: s => do
    let (digits, rest) ← readDigits s
    return (some digits, rest)
  | s => .ok (none, s)

/-- An exponent, if there is one. -/
def readExponent : Text → Except Fault (Option Int × Text)
  | c :: s => do
    if c != 'e' && c != 'E' then return (none, c :: s)
    let (negative, s) :=
      match s with
      | '-' :: s => (true, s)
      | '+' :: s => (false, s)
      | s => (false, s)
    let (digits, rest) ← readDigits s
    let n : Int := Decimal.value digits
    return (some (if negative then -n else n), rest)
  | [] => .ok (none, [])

/-- A number. -/
def readNumber (s : Text) : Except Fault (Number × Text) := do
  let (negative, s) :=
    match s with
    | '-' :: s => (true, s)
    | s => (false, s)
  let (integer, s) ← readInteger s
  let (fraction, s) ← readFraction s
  let (exponent, s) ← readExponent s
  match Numeral.number? ⟨negative, integer, fraction, exponent⟩ with
  | some n => return (n, s)
  | none => throw .numberTooLarge

/-! ### Values -/

/-- One of the three names of values. -/
def readName (name : Text) (value : Json) (s : Text) : Except Fault (Json × Text) :=
  match Text.dropPrefix? name s with
  | some rest => .ok (value, rest)
  | none => .error (faultAt (s.drop 1))

mutual

/-- A value, after blanks, with containers up to `depth` levels deep. The first argument bounds
the number of steps. -/
def readValue : Nat → Nat → Text → Except Fault (Json × Text)
  | 0, _, _ => .error .endOfText
  | fuel + 1, depth, s =>
    match skipSpace s with
    | '"' :: s => do
      let (text, rest) ← readString s
      return (.string text, rest)
    | '[' :: s =>
      match depth with
      | 0 => .error .tooDeep
      | depth + 1 => do
        let (items, rest) ←
          match skipSpace s with
          | ']' :: rest => pure ([], rest)
          | s => readItems fuel depth s
        return (.array items, rest)
    | '\x7b' :: s =>
      match depth with
      | 0 => .error .tooDeep
      | depth + 1 => do
        let (members, rest) ←
          match skipSpace s with
          | '\x7d' :: rest => pure ([], rest)
          | s => readMembers fuel depth s
        return (.object (Entries.ofList members), rest)
    | 't' :: s => readName "true" (.bool true) ('t' :: s)
    | 'f' :: s => readName "false" (.bool false) ('f' :: s)
    | 'n' :: s => readName "null" .null ('n' :: s)
    | c :: s =>
      if c == '-' || c.isDigit then do
        let (n, rest) ← readNumber (c :: s)
        return (.number n, rest)
      else .error (.unexpected c)
    | [] => .error .endOfText

/-- The items of an array up to its end; there is at least one. -/
def readItems : Nat → Nat → Text → Except Fault (List Json × Text)
  | 0, _, _ => .error .endOfText
  | fuel + 1, depth, s => do
    let (item, rest) ← readValue fuel depth s
    match skipSpace rest with
    | ',' :: rest =>
      let (items, rest) ← readItems fuel depth rest
      return (item :: items, rest)
    | ']' :: rest => return ([item], rest)
    | rest => throw (faultAt rest)

/-- The members of an object up to its end; there is at least one. -/
def readMembers : Nat → Nat → Text → Except Fault (List (Text × Json) × Text)
  | 0, _, _ => .error .endOfText
  | fuel + 1, depth, s =>
    match skipSpace s with
    | '"' :: s => do
      let (key, rest) ← readString s
      match skipSpace rest with
      | ':' :: rest =>
        let (value, rest) ← readValue fuel depth rest
        match skipSpace rest with
        | ',' :: rest =>
          let (members, rest) ← readMembers fuel depth rest
          return ((key, value) :: members, rest)
        | '\x7d' :: rest => return ([(key, value)], rest)
        | rest => throw (faultAt rest)
      | rest => throw (faultAt rest)
    | s => .error (faultAt s)

end

/-- The document of a text, with containers up to `depth` levels deep. Every step but those into
the first item of a container consumes a character, so twice the length bounds their number. -/
def readNested (depth : Nat) (s : Text) : Except Fault Json := do
  let (value, rest) ← readValue (2 * s.length + 2) depth s
  match skipSpace rest with
  | [] => return value
  | c :: _ => throw (.unexpected c)

/-- How deep the containers of a document may be nested. -/
def depthLimit : Nat := 127

/-- The document of a text. -/
def read (s : Text) : Except Fault Json :=
  readNested depthLimit s

end PageTemplate.Json
