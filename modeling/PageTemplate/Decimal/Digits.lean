import PageTemplate.Text.Basic

/-!
# Decimal digits of integers

## Main definitions

* `PageTemplate.Decimal.ofNat`, `PageTemplate.Decimal.ofInt` — the digits of a number, with a
  leading minus sign if it is negative.
* `PageTemplate.Decimal.value` — the number that a sequence of digits stands for.
* `PageTemplate.Decimal.readInt64?` — the 64-bit integer that a signed numeral stands for.
-/

namespace PageTemplate.Decimal

/-- The decimal digits of a natural number. -/
def ofNat (n : Nat) : Text :=
  Nat.toDigits 10 n

/-- The decimal digits of an integer, after a minus sign if it is negative. -/
def ofInt (n : Int) : Text :=
  if n < 0 then '-' :: ofNat n.natAbs else ofNat n.natAbs

/-- The value of one digit of a base up to sixteen, in either case of its letters. -/
def digit? (base : Nat) (c : Char) : Option Nat :=
  let d :=
    if c.isDigit then some (c.toNat - '0'.toNat)
    else if 'a' ≤ c ∧ c ≤ 'f' then some (c.toNat - 'a'.toNat + 10)
    else if 'A' ≤ c ∧ c ≤ 'F' then some (c.toNat - 'A'.toNat + 10)
    else none
  d.filter (· < base)

/-- The number that one or more digits of a base stand for. -/
def readNat? (base : Nat) (s : Text) : Option Nat :=
  if s.isEmpty then none
  else (s.mapM (digit? base)).map fun ds => ds.foldl (fun n d => n * base + d) 0

/-- The number that a sequence of decimal digits stands for. -/
def value (digits : Text) : Nat :=
  digits.foldl (fun n c => n * 10 + (c.toNat - '0'.toNat)) 0

/-- The integer that digits of a base stand for, after at most one sign. -/
def readInt? (base : Nat) (s : Text) : Option Int :=
  match s with
  | '-' :: digits => (readNat? base digits).map fun n => -(n : Int)
  | '+' :: digits => (readNat? base digits).map Int.ofNat
  | digits => (readNat? base digits).map Int.ofNat

/-- The integers of 64 bits with sign. -/
def isInt64 (n : Int) : Bool :=
  Int64.minValue.toInt ≤ n && n ≤ Int64.maxValue.toInt

/-- The 64-bit integer that a decimal numeral stands for: at most one sign, then digits. -/
def readInt64? (s : Text) : Option Int64 :=
  ((readInt? 10 s).filter isInt64).map Int64.ofInt

end PageTemplate.Decimal
