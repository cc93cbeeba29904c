import PageTemplate.Text.Utf8

/-!
# Places in a source

## Main definitions

* `PageTemplate.Location` — line, column and offset of a place.
* `PageTemplate.Location.advance` — the place after a text.
-/

namespace PageTemplate

/-- A place in a source: its line and its column, counted from one, the column in characters; and
the number of octets before it. -/
structure Location where
  line : Nat
  column : Nat
  offset : Nat
deriving DecidableEq, Repr

namespace Location

/-- The beginning of a source. -/
def start : Location := ⟨1, 1, 0⟩

/-- The place after one character; a line feed begins a new line. -/
def next (l : Location) (c : Char) : Location :=
  if c = '\n' then ⟨l.line + 1, 1, l.offset + c.utf8Size⟩
  else ⟨l.line, l.column + 1, l.offset + c.utf8Size⟩

/-- The place after a text. -/
def advance (l : Location) (s : Text) : Location :=
  s.foldl next l

@[simp] theorem advance_nil (l : Location) : l.advance [] = l := rfl

theorem advance_append (l : Location) (s t : Text) :
    l.advance (s ++ t) = (l.advance s).advance t := by
  simp [advance]

end Location

end PageTemplate
