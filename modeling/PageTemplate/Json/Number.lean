import PageTemplate.Json.Basic

/-!
# Numerals of JSON documents

A numeral without fraction and exponent is a whole number as long as it fits a 64-bit word.
Every other numeral is a floating-point number: its digits are gathered into one unsigned 64-bit
word as far as they fit, and the word is then scaled by a power of ten in floating-point
arithmetic. The result may differ from the nearest floating-point number in the last place.

## Main definitions

* `PageTemplate.Json.Numeral` — the parts of a numeral as written.
* `PageTemplate.Json.Numeral.number?` — its number, missing if it is too large.
-/

namespace PageTemplate.Json

/-- A numeral as written: a sign, digits before the point, digits after it if there is a point, and
an exponent if there is one. -/
structure Numeral where
  negative : Bool
  integer : Text
  fraction : Option Text
  exponent : Option Int

/-- Gathers digits onto a number as long as it fits a 64-bit word: the number, and the digits
that found no place. -/
def gather (significand : Nat) : Text → Nat × Text
  | [] => (significand, [])
  | c :: digits =>
    let next := significand * 10 + Decimal.value [c]
    if next < UInt64.size then gather next digits else (significand, c :: digits)

/-- The floating-point power of ten, for exponents up to 308. -/
def powerOfTen (k : Nat) : Float :=
  Float.ofScientific 1 false k

/-- The number divided by a power of ten, in steps of at most `10 ^ 308`. -/
def scaleDown (x : Float) (k : Nat) : Float :=
  if k ≤ 308 then x / powerOfTen k
  else if x == 0 then x
  else scaleDown (x / powerOfTen 308) (k - 308)
termination_by k

/-- The number times a power of ten, missing if it is too large. -/
def scale? (x : Float) (exponent : Int) : Option Float :=
  if exponent < 0 then some (scaleDown x exponent.natAbs)
  else if exponent ≤ 308 then
    let y := x * powerOfTen exponent.natAbs
    if y.isInf then none else some y
  else if x == 0 then some x
  else none

namespace Numeral

/-- The magnitude of the numeral in floating-point arithmetic. -/
def magnitude? (t : Numeral) : Option Float :=
  let fraction := t.fraction.getD []
  let (whole, unread) := gather 0 t.integer
  let (significand, ignored) := gather whole fraction
  let shift : Int := unread.length - (fraction.length - ignored.length : Nat)
  scale? (UInt64.ofNat significand).toFloat (shift + t.exponent.getD 0)

/-- The numeral as a floating-point number. -/
def real? (t : Numeral) : Option Number := do
  let x ← t.magnitude?
  let x := if t.negative then -x else x
  if h : x.isFinite = true then some (.real x h) else none

/-- The number that the numeral stands for. A negative zero is a floating-point number. -/
def number? (t : Numeral) : Option Number :=
  let n : Int := Decimal.value t.integer
  let n := if t.negative then -n else n
  let exact := t.fraction.isNone && t.exponent.isNone && !(t.negative && n == 0)
  if h : exact = true ∧ isWhole n = true then some (.whole n h.2) else t.real?

end Numeral

end PageTemplate.Json
