import PageTemplate.Json.Basic
import PageTemplate.Yaml.Node

/-!
# The meaning of plain scalars

A plain scalar is null, a truth value, an integer in one of four bases, a floating-point number, or
else a text. Digits with a leading zero are a text.

## Main definitions

* `PageTemplate.Yaml.isNull`, `PageTemplate.Yaml.readBool?`, `PageTemplate.Yaml.readInteger?`,
  `PageTemplate.Yaml.readReal?` — the kinds of plain scalars.
* `PageTemplate.Yaml.Node.toJson` — the JSON document that a node stands for.
-/

namespace PageTemplate.Yaml

/-- The spellings of null, the empty one included. -/
def isNull (s : Text) : Bool :=
  ["", "null", "Null", "NULL", "~"].any fun name => name.toList == s

/-- The truth value of a plain scalar. -/
def readBool? (s : Text) : Option Bool :=
  if ["true", "True", "TRUE"].any fun name => name.toList == s then some true
  else if ["false", "False", "FALSE"].any fun name => name.toList == s then some false
  else none

/-- Whether a scalar is a number but for its leading zeros. -/
def hasLeadingZeros (s : Text) : Bool :=
  let digits :=
    match s with
    | '-' :: digits => digits
    | '+' :: digits => digits
    | digits => digits
  match digits with
  | '0' :: c :: rest => (c :: rest).all Char.isDigit
  | _ => false

/-- The digits of an unsigned integer in the base that its first characters tell. -/
def readMagnitude? : Text → Option Nat
  | '0' :: 'x' :: digits => Decimal.readNat? 16 digits
  | '0' :: 'o' :: digits => Decimal.readNat? 8 digits
  | '0' :: 'b' :: digits => Decimal.readNat? 2 digits
  | digits => Decimal.readNat? 10 digits

/-- The integer of a plain scalar, of any size. -/
def readInteger? (s : Text) : Option Int :=
  if hasLeadingZeros s then none
  else
    match s with
    | '-' :: digits => (readMagnitude? digits).map fun n => -(n : Int)
    | '+' :: digits => (readMagnitude? digits).map Int.ofNat
    | digits => (readMagnitude? digits).map Int.ofNat

/-- A number of decimal digits times a power of ten, missing if it is too large. The power is not
computed where it lies far outside the range of floating-point numbers. -/
def realOf? (digits : Nat) (exponent : Int) : Option Float :=
  let power := exponent + (Decimal.ofNat digits).length
  let x : Float :=
    if digits == 0 || power < -400 then 0
    else if 400 < power then 1 / 0
    else Float.ofScientific digits (exponent < 0) exponent.natAbs
  if x.isFinite then some x else none

/-- The exponent at the end of a number, zero if nothing is left. -/
def readPower? : Text → Option Int
  | [] => some 0
  | c :: s => if c == 'e' || c == 'E' then Decimal.readInt? 10 s else none

/-- A finite number without a sign: digits with at most one point, and an exponent. -/
def readUnsignedReal? (s : Text) : Option Float := do
  let whole := s.takeWhile Char.isDigit
  let rest := s.dropWhile Char.isDigit
  let (fraction, rest) :=
    match rest with
    | '.' :: rest => (rest.takeWhile Char.isDigit, rest.dropWhile Char.isDigit)
    | rest => ([], rest)
  if whole.isEmpty && fraction.isEmpty then none
  else
    let power ← readPower? rest
    realOf? (Decimal.value (whole ++ fraction)) (power - fraction.length)

/-- The floating-point number of a plain scalar: infinite, not a number, or in digits. -/
def readReal? (s : Text) : Option Float :=
  if hasLeadingZeros s then none
  else
    let infinite (s : Text) := [".inf", ".Inf", ".INF"].any fun name => name.toList == s
    if [".nan", ".NaN", ".NAN"].any fun name => name.toList == s then some (0 / 0)
    else
      match s with
      | '-' :: rest =>
        if infinite rest then some (-1 / 0) else (readUnsignedReal? rest).map fun x => -x
      | '+' :: rest => if infinite rest then some (1 / 0) else readUnsignedReal? rest
      | rest => if infinite rest then some (1 / 0) else readUnsignedReal? rest

/-- The integers of a word of 128 bits with sign or without. -/
def isWide (n : Int) : Bool :=
  -0x80000000000000000000000000000000 ≤ n && n < 0x100000000000000000000000000000000

/-- The JSON document of a plain scalar. Integers are kept exactly if they fit 64 bits, are refused
up to 128 bits, and beyond are floating-point numbers. -/
def plainToJson (s : Text) : Except Fault Json :=
  if isNull s then .ok .null
  else
    match readBool? s with
    | some b => .ok (.bool b)
    | none =>
      match readInteger? s with
      | some n =>
        match Json.ofInt? n with
        | some json => .ok json
        | none => if isWide n then .error .numberTooLarge else asReal s
      | none => asReal s
where
  /-- The document of a scalar that is no integer. -/
  asReal (s : Text) : Except Fault Json :=
    match readReal? s with
    | some x => .ok (Json.ofFloat x)
    | none => .ok (.string s)

namespace Node

/-- The text of a node that is used as a key or where a text is asked for. -/
def text? : Node → Option Text
  | .scalar text _ => some text
  | _ => none

mutual

/-- The JSON document of a node, with collections up to `depth` levels deep. Of several pairs of
one key the last counts, in the place of the first. -/
def toJson (depth : Nat) : Node → Except Fault Json
  | .scalar text plain => if plain then plainToJson text else .ok (.string text)
  | .list items => do
    if depth = 0 then throw .tooDeep
    return .array (← itemsToJson (depth - 1) items)
  | .mapping pairs => do
    if depth = 0 then throw .tooDeep
    return .object (Entries.ofList (← pairsToJson (depth - 1) pairs))

/-- The JSON documents of the items of a list. -/
def itemsToJson (depth : Nat) : List Node → Except Fault (List Json)
  | [] => .ok []
  | item :: items => return (← toJson depth item) :: (← itemsToJson depth items)

/-- The members of an object for the pairs of a mapping. -/
def pairsToJson (depth : Nat) : List (Node × Node) → Except Fault (List (Text × Json))
  | [] => .ok []
  | (key, value) :: pairs => do
    let some key := key.text? | throw (.unfit "a text as key")
    return (key, ← toJson depth value) :: (← pairsToJson depth pairs)

end

end Node

end PageTemplate.Yaml
