import PageTemplate.Decimal.Notation
import PageTemplate.Json.Basic

/-!
# Values of pages

The values that a page is rendered from. They are read from JSON documents and can be written back:
whole numbers of 64 bits with sign stay whole, all other numbers are floating-point numbers.

## Main definitions

* `PageTemplate.Value` — a value; the entries of an object keep their order.
* `PageTemplate.Value.ofJson`, `PageTemplate.Value.toJson` — from documents and back.
* `PageTemplate.Value.isTruthy` — whether a condition on the value holds.
* `PageTemplate.Value.text` — the text of a value; containers have none.
-/

namespace PageTemplate

/-- A value. -/
inductive Value where
  | null
  | bool (b : Bool)
  | int (n : Int64)
  | float (x : Float)
  | string (s : Text)
  | array (items : List Value)
  | object (entries : List (Text × Value))

namespace Value

/-! ### From documents and back -/

/-- A number of a document: whole if it fits 64 bits with sign, else floating-point. -/
def ofNumber : Json.Number → Value
  | .whole n _ =>
    if Decimal.isInt64 n then .int (Int64.ofInt n)
    else .float (UInt64.ofNat n.toNat).toFloat
  | .real x _ => .float x

mutual

/-- The value of a document. -/
def ofJson : Json → Value
  | .null => .null
  | .bool b => .bool b
  | .number n => ofNumber n
  | .string s => .string s
  | .array items => .array (ofJsonItems items)
  | .object members => .object (ofJsonMembers members)

/-- The values of the items of an array. -/
def ofJsonItems : List Json → List Value
  | [] => []
  | item :: items => ofJson item :: ofJsonItems items

/-- The values of the members of an object. -/
def ofJsonMembers : List (Text × Json) → List (Text × Value)
  | [] => []
  | (key, value) :: members => (key, ofJson value) :: ofJsonMembers members

end

/-- Whole numbers of 64 bits with sign are kept exactly in documents. -/
theorem isWhole_toInt (n : Int64) : Json.isWhole n.toInt = true := by
  have hlow : Int64.minValue.toInt = -9223372036854775808 := by decide
  have hsize : UInt64.size = 18446744073709551616 := by decide
  have hn := n.le_toInt
  have hn' := n.toInt_lt
  simp only [Json.isWhole, hlow, hsize, Bool.and_eq_true, decide_eq_true_eq]
  omega

mutual

/-- The document of a value; floating-point numbers that are not finite are null. -/
def toJson : Value → Json
  | .null => .null
  | .bool b => .bool b
  | .int n => .number (.whole n.toInt (isWhole_toInt n))
  | .float x => Json.ofFloat x
  | .string s => .string s
  | .array items => .array (toJsonItems items)
  | .object entries => .object (toJsonMembers entries)

/-- The documents of the items of an array. -/
def toJsonItems : List Value → List Json
  | [] => []
  | item :: items => toJson item :: toJsonItems items

/-- The members for the entries of an object. -/
def toJsonMembers : List (Text × Value) → List (Text × Json)
  | [] => []
  | (key, value) :: entries => (key, toJson value) :: toJsonMembers entries

end

/-! ### What pages see of a value -/

/-- Whether a condition on the value holds. Null, false, zero, the empty text, `0`, `false` in any
case and the empty array do not. -/
def isTruthy : Value → Bool
  | .null => false
  | .bool b => b
  | .int n => n != 0
  | .float x => x != 0
  | .string s => !(s.isEmpty || s == ['0'] || Text.eqIgnoringAsciiCase s "false")
  | .array items => !items.isEmpty
  | .object _ => true

/-- Floating-point numbers are written out in full, without `.0`, and go up where two decimals are
equally near. -/
def floatNotation : Decimal.Notation :=
  ⟨none, false, .up⟩

/-- The text of a floating-point number, finite or not. -/
def floatText (x : Float) : Text :=
  if x.isNaN then "NaN"
  else if x.isInf then (if x < 0 then "-inf" else "inf")
  else floatNotation.write x

/-- The text of a value other than a container. -/
def scalarText? : Value → Option Text
  | .null => some []
  | .bool b => some (if b then ['1'] else [])
  | .int n => some (Decimal.ofInt n.toInt)
  | .float x => some (floatText x)
  | .string s => some s
  | .array _ => none
  | .object _ => none

/-- The text of a value; that of a container is empty. -/
def text (v : Value) : Text :=
  v.scalarText?.getD []

/-- Arrays and objects. -/
def isContainer : Value → Bool
  | .array _ => true
  | .object _ => true
  | _ => false

/-- The value of a key of an object. -/
def field? (v : Value) (key : Text) : Option Value :=
  match v with
  | .object entries => Entries.get? entries key
  | _ => none

/-- The entries of an object; other values have none. -/
def entries : Value → Entries Value
  | .object entries => entries
  | _ => []

/-- The kind of a value in words. -/
def kind : Value → Text
  | .null => "null"
  | .bool _ => "boolean"
  | .int _ => "number"
  | .float _ => "number"
  | .string _ => "string"
  | .array _ => "sequence"
  | .object _ => "mapping"

/-- A value is a container exactly when it has no text of its own. -/
theorem scalarText?_eq_none_iff (v : Value) : v.scalarText? = none ↔ v.isContainer = true := by
  cases v <;> simp [scalarText?, isContainer]

/-- The text of a container is empty. -/
theorem text_eq_nil_of_isContainer {v : Value} (h : v.isContainer = true) : v.text = [] := by
  rw [text, (scalarText?_eq_none_iff v).mpr h]
  rfl

end Value

end PageTemplate
