import PageTemplate.Path

/-!
# Conditions

A condition compares the text of a value with a literal, `status == 'open'`, or asks whether a
value counts as true.

## Main definitions

* `PageTemplate.Condition` — the two kinds of conditions.
* `PageTemplate.Condition.parse` — the condition of any text.
-/

namespace PageTemplate

/-- A condition on the value that a path leads to. -/
inductive Condition where
  | equals (path : Path) (literal : Text)
  | truthy (path : Path)
deriving DecidableEq

namespace Condition

/-- The condition of a text: a comparison if it contains `==`, where the literal loses the blanks
and quotation marks around it. -/
def parse (s : Text) (location : Location) : Condition :=
  match Text.cut? ['=', '='] s with
  | some (left, right) => .equals (Path.lenient left location) (Text.unwrap right)
  | none => .truthy (Path.lenient s location)

/-- The path whose value the condition is about. -/
def path : Condition → Path
  | .equals path _ => path
  | .truthy path => path

end Condition

end PageTemplate
