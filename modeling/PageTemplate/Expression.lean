import PageTemplate.Filter
import PageTemplate.Path

/-!
# Expressions of outputs

An output holds a path, followed by filters after vertical bars: `user.name | lower | slice(0, 8)`.

## Main definitions

* `PageTemplate.Expression` — a path with its filters.
* `PageTemplate.Expression.parse?` — the expression of the content of an output.
* `PageTemplate.Expression.isPlain` — whether there is no filter but `raw`.
-/

namespace PageTemplate

/-- A path with the filters written after it. -/
structure Expression where
  path : Path
  filters : List Filter
deriving DecidableEq

namespace Expression

/-- The expression of a content, if a path of words begins it; blanks between two bars make no
filter. -/
def parse? (content : Text) (location : Location) : Option Expression :=
  match content.splitOn '|' with
  | [] => none
  | first :: rest =>
    (Path.parse? first location).map fun path =>
      ⟨path, ((rest.map Text.trim).filter fun part => !part.isEmpty).map Filter.parse⟩

/-- Whether a filter of the name is written. -/
def hasFilter (e : Expression) (name : Text) : Bool :=
  e.filters.any (·.name == name)

/-- Whether every filter is `raw`. -/
def isPlain (e : Expression) : Bool :=
  e.filters.all (·.name == "raw")

end Expression

end PageTemplate
