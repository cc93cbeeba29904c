import PageTemplate.Decimal.Digits

/-!
# Slices of text

A slice takes `length` characters of a text from `start` on. A negative start counts from the end
of the text, and a negative length leaves that many characters out at the end. The bounds are
computed with 64-bit integers that stop at their least and greatest value.

## Main definitions

* `PageTemplate.Slice` — a start and a length; without a length the slice reaches to the end.
* `PageTemplate.Slice.ofArgs?` — the slice that the arguments of a filter ask for.
* `PageTemplate.Slice.cut` — the slice of a text.
-/

namespace PageTemplate

/-- A start and a length, each counted from the end of the text if it is negative. -/
structure Slice where
  start : Int64
  length : Option Int64
deriving DecidableEq

namespace Slice

/-- The slice of one or two numerals; further arguments do not count, and arguments that are no
numerals make no slice. -/
def ofArgs? : List Text → Option Slice
  | [] => none
  | [start] => (Decimal.readInt64? start).map fun start => ⟨start, none⟩
  | start :: length :: _ => do
    let start ← Decimal.readInt64? start
    let length ← Decimal.readInt64? length
    return ⟨start, some length⟩

/-- The sum of two words, or the least or greatest word if the sum lies beyond it. -/
def addClamped (a b : Int64) : Int64 :=
  Int64.ofInt (max Int64.minValue.toInt (min Int64.maxValue.toInt (a.toInt + b.toInt)))

/-- Where the slice begins in a text of `total` characters. -/
def first (s : Slice) (total : Int64) : Int64 :=
  if s.start < 0 then max (addClamped total s.start) 0 else min s.start total

/-- Where the slice ends in a text of `total` characters. -/
def last (s : Slice) (total : Int64) : Int64 :=
  match s.length with
  | none => total
  | some length =>
    if length < 0 then max (addClamped total length) (s.first total)
    else min (addClamped (s.first total) length) total

/-- The slice of a text. -/
def cut (s : Slice) (text : Text) : Text :=
  let total := Int64.ofNat text.length
  let first := (s.first total).toInt.toNat
  let last := (s.last total).toInt.toNat
  (text.take last).drop first

end Slice

end PageTemplate
