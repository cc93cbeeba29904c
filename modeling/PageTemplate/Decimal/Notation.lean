import PageTemplate.Decimal.Shortest

/-!
# Floating-point numbers in writing

A notation says how a shortest decimal is written: how far it is written out in full, whether a
whole number keeps a `.0`, and which of two equally near decimals is taken.

## Main definitions

* `PageTemplate.Decimal.Notation` — the choices of a notation.
* `PageTemplate.Decimal.Notation.write` — a finite floating-point number in a notation.
-/

namespace PageTemplate.Decimal

/-- How floating-point numbers are written. `fullRange` holds the least and the greatest power of
ten of a leading digit that are written out in full, all powers if it is missing; `pointZero` gives
whole numbers that are written out in full a `.0`; `tie` chooses between two equally near
decimals. -/
structure Notation where
  fullRange : Option (Int × Int)
  pointZero : Bool
  tie : Tie

namespace Scientific

/-- The power of ten of the leading digit. -/
def leadingPower (d : Scientific) : Int :=
  d.exponent + (ofNat d.digits).length - 1

/-- A decimal written out in full, a whole number followed by `wholeEnd`. -/
def inFull (wholeEnd : Text) (d : Scientific) : Text :=
  let digits := ofNat d.digits
  if 0 ≤ d.exponent then
    digits ++ List.replicate d.exponent.toNat '0' ++ wholeEnd
  else
    let places := (-d.exponent).toNat
    let digits := List.replicate (places + 1 - digits.length) '0' ++ digits
    digits.take (digits.length - places) ++ '.' :: digits.drop (digits.length - places)

/-- A decimal with one digit before the point and a signed exponent. -/
def exponential (d : Scientific) : Text :=
  let digits := ofNat d.digits
  let sign := if d.leadingPower < 0 then '-' else '+'
  digits.take 1 ++ (if digits.length ≤ 1 then [] else '.' :: digits.drop 1)
    ++ 'e' :: sign :: ofNat d.leadingPower.natAbs

end Scientific

namespace Notation

/-- A decimal in the notation. -/
def writeScientific (f : Notation) (d : Scientific) : Text :=
  let power := d.leadingPower
  if f.fullRange.all fun (least, greatest) => least ≤ power && power ≤ greatest then
    d.inFull (if f.pointZero then ".0" else "")
  else
    d.exponential

/-- A finite floating-point number in the notation; a zero keeps its sign. -/
def write (f : Notation) (x : Float) : Text :=
  let sign : Text := if x.toBits < 0x8000000000000000 then [] else ['-']
  let d := if x == 0 then ⟨0, 0⟩ else shortest f.tie (Binary.ofFloat x)
  sign ++ f.writeScientific d

end Notation

end PageTemplate.Decimal
