import PageTemplate.Text.Basic

/-!
# Filters as written

A filter is a name, or a name with arguments in parentheses: `upper`, `slice(1, 2)`.

## Main definitions

* `PageTemplate.Filter` — a name with its arguments.
* `PageTemplate.Filter.parse` — the filter of any text.
-/

namespace PageTemplate

/-- A name with its arguments. -/
structure Filter where
  name : Text
  args : List Text
deriving DecidableEq

namespace Filter

/-- The arguments between commas, blanks and quotation marks around them left out; empty ones do
not count. -/
def parseArgs (s : Text) : List Text :=
  ((s.splitOn ',').map Text.unwrap).filter fun arg => !arg.isEmpty

/-- The filter of a text: what stands before the first opening parenthesis is its name, what stands
after it are its arguments, without a closing parenthesis at the very end. -/
def parse (s : Text) : Filter :=
  let s := Text.trim s
  match Text.cutWhere? (· == '(') s with
  | some (name, rest) => ⟨Text.trim name, parseArgs ((Text.dropSuffix? [')'] rest).getD rest)⟩
  | none => ⟨s, []⟩

end Filter

end PageTemplate
