import PageTemplate.Decimal.Digits
import PageTemplate.Entries

/-!
# JSON documents

## Main definitions

* `PageTemplate.Json.Number` — a whole number that fits a 64-bit word, with or without sign, or a
  finite floating-point number.
* `PageTemplate.Json` — a document; the members of an object keep their order.
-/

namespace PageTemplate

namespace Json

/-- The whole numbers that are kept exactly: those of a 64-bit word with sign or without. -/
def isWhole (n : Int) : Bool :=
  Int64.minValue.toInt ≤ n && n < UInt64.size

/-- A number of a document. -/
inductive Number where
  | whole (n : Int) (inRange : isWhole n = true)
  | real (x : Float) (finite : x.isFinite = true)

end Json

/-- A JSON document. -/
inductive Json where
  | null
  | bool (b : Bool)
  | number (n : Json.Number)
  | string (s : Text)
  | array (items : List Json)
  | object (members : List (Text × Json))

namespace Json

/-- The floating-point number as a document; what is not finite has no number and is null. -/
def ofFloat (x : Float) : Json :=
  if h : x.isFinite = true then .number (.real x h) else .null

/-- The whole number as a document, as long as it is kept exactly. -/
def ofInt? (n : Int) : Option Json :=
  if h : isWhole n = true then some (.number (.whole n h)) else none

end Json

end PageTemplate
