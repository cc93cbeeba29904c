import PageTemplate.Decimal.Digits

/-!
# The shortest decimal of a binary floating-point number

A finite floating-point number stands for a whole interval of reals, those that round to it. Of the
decimals in this interval the shortest are those on the coarsest grid `10 ^ k` that meets it; among
them the nearest to the number is chosen. Everything is computed with natural numbers.

## Main definitions

* `PageTemplate.Decimal.Binary` — a positive number `mantissa * 2 ^ exponent` with the shape of its
  rounding interval.
* `PageTemplate.Decimal.Scientific` — a decimal `digits * 10 ^ exponent`.
* `PageTemplate.Decimal.shortest` — the shortest decimal that rounds to a number.
-/

namespace PageTemplate.Decimal

/-- A positive binary number `mantissa * 2 ^ exponent`. The reals that round to it reach half a
unit up and, if `narrow` holds, a quarter of a unit down, else half a unit down; the ends belong to
them when the mantissa is even. -/
structure Binary where
  mantissa : Nat
  exponent : Int
  narrow : Bool

/-- A decimal `digits * 10 ^ exponent`. -/
structure Scientific where
  digits : Nat
  exponent : Int
deriving DecidableEq

/-- The direction in which a number halfway between two shortest decimals is moved. -/
inductive Tie where
  | toEven
  | up
deriving DecidableEq

/-- The magnitude of a finite floating-point number other than zero. -/
def Binary.ofFloat (x : Float) : Binary :=
  let bits : Nat := x.toBits.toNat
  let fraction : Nat := bits % 0x10000000000000
  let power : Nat := bits / 0x10000000000000 % 0x800
  if power = 0 then ⟨fraction, -1074, false⟩
  else ⟨fraction + 0x10000000000000, (power : Int) - 1075, fraction == 0 && power != 1⟩

/-- The number, and the two ends of its rounding interval, as numerators over one denominator. -/
structure Interval where
  low : Nat
  middle : Nat
  high : Nat
  scale : Nat
  closed : Bool

/-- The rounding interval in quarters of a unit. -/
def Binary.interval (b : Binary) : Interval :=
  let up := Nat.pow 2 (b.exponent - 2).toNat
  { low := (4 * b.mantissa - if b.narrow then 1 else 2) * up
    middle := 4 * b.mantissa * up
    high := (4 * b.mantissa + 2) * up
    scale := Nat.pow 2 (2 - b.exponent).toNat
    closed := b.mantissa % 2 == 0 }

/-- Membership of `n / scale` in the interval. -/
def Interval.contains (i : Interval) (n : Nat) : Bool :=
  if i.closed then i.low ≤ n && n ≤ i.high else i.low < n && n < i.high

/-- The least power `p` of ten with `middle / scale < 10 ^ p`. -/
def Interval.magnitude (i : Interval) : Int :=
  if i.scale ≤ i.middle then (ofNat (i.middle / i.scale)).length
  else
    let inverse := (i.scale - 1) / i.middle
    1 - (if inverse = 0 then 0 else (ofNat inverse).length : Nat)

/-- The nearest number to the middle among those of the grid `10 ^ exponent` that lie within the
interval. -/
def Interval.onGrid? (tie : Tie) (i : Interval) (exponent : Int) : Option Nat :=
  let unit := i.scale * Nat.pow 10 exponent.toNat
  let shift := Nat.pow 10 (-exponent).toNat
  let i := { i with low := i.low * shift, middle := i.middle * shift, high := i.high * shift }
  let below := i.middle / unit
  let remainder := i.middle % unit
  match i.contains (below * unit), i.contains ((below + 1) * unit) with
  | false, false => none
  | true, false => some below
  | false, true => some (below + 1)
  | true, true =>
    if 2 * remainder < unit then some below
    else if unit < 2 * remainder then some (below + 1)
    else match tie with
      | .up => some (below + 1)
      | .toEven => some (if below % 2 = 0 then below else below + 1)

/-- The decimal with no zero at the end of its digits. -/
def Scientific.trimmed (d : Scientific) : Scientific :=
  let zeros := ((ofNat d.digits).reverse.takeWhile (· == '0')).length
  ⟨d.digits / Nat.pow 10 zeros, d.exponent + zeros⟩

/-- The shortest decimal that rounds to the number; seventeen digits always suffice. -/
def shortest (tie : Tie) (b : Binary) : Scientific :=
  let i := b.interval
  let found := (List.range 17).findSome? fun n =>
    let exponent := i.magnitude - (n + 1 : Nat)
    (i.onGrid? tie exponent).map fun digits => Scientific.trimmed ⟨digits, exponent⟩
  found.getD ⟨0, 0⟩

end PageTemplate.Decimal
