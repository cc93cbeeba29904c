import PageTemplate.Condition
import PageTemplate.Value

/-!
# Names in scope

While a page is rendered, a name means the item of the innermost loop that binds it, else an entry
of the data of the page, else a global.

## Main definitions

* `PageTemplate.Scope` — globals, data and loop items.
* `PageTemplate.Scope.resolve?` — the value at the end of a path.
* `PageTemplate.Scope.topLevel?` — the value of a name with loop items left out.
* `PageTemplate.Condition.holds` — whether a condition holds.
-/

namespace PageTemplate

/-- What names mean: globals, the data of the page, and the items of the loops around a place,
innermost first. -/
structure Scope where
  globals : Entries Value
  data : Entries Value
  items : List (Text × Value)

namespace Scope

/-- The scope outside all loops. Data other than an object has no entries. -/
def ofData (globals : Entries Value) (data : Value) : Scope :=
  ⟨globals, data.entries, []⟩

/-- The scope within a loop that binds a name to an item. -/
def push (s : Scope) (name : Text) (item : Value) : Scope :=
  { s with items := (name, item) :: s.items }

/-- The scope around the innermost loop. -/
def pop (s : Scope) : Scope :=
  { s with items := s.items.tail }

/-- The value of a name in the data, or else in the globals. -/
def topLevel? (s : Scope) (name : Text) : Option Value :=
  (Entries.get? s.data name).or (Entries.get? s.globals name)

/-- The value of a name. -/
def lookup? (s : Scope) (name : Text) : Option Value :=
  (Entries.get? s.items name).or (s.topLevel? name)

/-- The value at the end of a path: the head is looked up, the other segments select fields. -/
def resolve? (s : Scope) : List Text → Option Value
  | [] => none
  | name :: fields => (s.lookup? name).bind fun v => fields.foldlM Value.field? v

/-- Whether a loop binds the name. -/
def isLoopName (s : Scope) (name : Text) : Bool :=
  s.items.any fun (bound, _) => bound == name

@[simp] theorem pop_push (s : Scope) (name : Text) (item : Value) :
    (s.push name item).pop = s := rfl

theorem lookup?_push (s : Scope) (name : Text) (item : Value) (other : Text) :
    (s.push name item).lookup? other = if other = name then some item else s.lookup? other := by
  by_cases h : other = name <;> simp [lookup?, push, Entries.get?_cons, h, topLevel?]

@[simp] theorem topLevel?_push (s : Scope) (name : Text) (item : Value) (other : Text) :
    (s.push name item).topLevel? other = s.topLevel? other := rfl

end Scope

namespace Condition

/-- Whether the condition holds. A name without a value has the empty text and is not true. -/
def holds (s : Scope) : Condition → Bool
  | equals path literal => ((s.resolve? path.segments).map Value.text).getD [] == literal
  | truthy path => ((s.resolve? path.segments).map Value.isTruthy).getD false

end Condition

end PageTemplate
