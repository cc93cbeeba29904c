import PageTemplate.Escape
import PageTemplate.Filter
import PageTemplate.Filter.Slice
import PageTemplate.Json.Writer
import PageTemplate.Text.Case
import PageTemplate.Value

/-!
# Filters at work

The filters of an output do not act in the order in which they are written. Writing a value as JSON
comes first, `raw` leaves out everything else, and the other filters follow in the order `lower`,
`upper`, `length`, `slice`. At the end the text is escaped. Unknown names do not count.

## Main definitions

* `PageTemplate.Chain` — which of the known filters an output has.
* `PageTemplate.Chain.ofFilters` — the chain of a list of filters.
* `PageTemplate.Chain.apply` — the text of a value, or of a name without a value.
-/

namespace PageTemplate

/-- Which of the known filters an output has, and the slice that counts. -/
structure Chain where
  raw : Bool
  jsonEncode : Bool
  lower : Bool
  upper : Bool
  length : Bool
  slice : Option Slice
deriving DecidableEq

namespace Chain

/-- No filter. -/
def empty : Chain := ⟨false, false, false, false, false, none⟩

/-- The chain with one more filter. Of several slices the last with proper arguments counts. -/
def add (chain : Chain) (filter : Filter) : Chain :=
  if filter.name = "raw" then { chain with raw := true }
  else if filter.name = "json_encode" then { chain with jsonEncode := true }
  else if filter.name = "lower" then { chain with lower := true }
  else if filter.name = "upper" then { chain with upper := true }
  else if filter.name = "length" then { chain with length := true }
  else if filter.name = "slice" then
    { chain with slice := (Slice.ofArgs? filter.args).or chain.slice }
  else chain

/-- The chain of a list of filters. -/
def ofFilters (filters : List Filter) : Chain :=
  filters.foldl add empty

/-- The text ready for the page: escaped unless the chain has `raw`. -/
def finish (chain : Chain) (text : Text) : Text :=
  if chain.raw then text else Escape.escape text

/-- The JSON text of a value; what is missing is written as an empty array. -/
def encode : Option Value → Text
  | none => "[]"
  | some .null => "[]"
  | some v => v.toJson.write

/-- How many items, entries or characters there are; `text` is the text of the value so far. -/
def count (value : Option Value) (text : Text) : Nat :=
  match value with
  | some (.array items) => items.length
  | some (.object entries) => entries.length
  | _ => text.length

/-- The text with the filters other than `json_encode` and `raw`. -/
def transform (chain : Chain) (value : Option Value) (text : Text) : Text :=
  let text := if chain.lower then Text.toLower text else text
  let text := if chain.upper then Text.toUpper text else text
  let text := if chain.length then Decimal.ofNat (count value text) else text
  match chain.slice with
  | some slice => slice.cut text
  | none => text

/-- The text of a value on a page, or of a name without a value. -/
def apply (chain : Chain) (value : Option Value) : Text :=
  if chain.jsonEncode then chain.finish (encode value)
  else
    let text := (value.map Value.text).getD []
    if chain.raw then text else chain.finish (chain.transform value text)

end Chain

end PageTemplate
