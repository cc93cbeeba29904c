import PageTemplate.Location

/-!
# Paths to values

A path names a value: its head is looked up, and each further segment selects a field.

## Main definitions

* `PageTemplate.Path` — the segments of a path, with the place of the tag that holds it.
* `PageTemplate.Path.parse?` — the path of a text that consists of words joined by dots.
* `PageTemplate.Path.lenient` — the path of any text, cut at its dots.
* `PageTemplate.Path.text` — the segments joined by dots.
-/

namespace PageTemplate

/-- The segments of a path, with the place of the tag that holds it. -/
structure Path where
  segments : List Text
  location : Location
deriving DecidableEq

namespace Path

/-- The path of a text of words joined by dots, with blanks around it. -/
def parse? (s : Text) (location : Location) : Option Path :=
  let segments := (Text.trim s).splitOn '.'
  if segments.all Text.isWord then some ⟨segments, location⟩ else none

/-- The path whose segments are the pieces of a text between its dots, blanks around them left
out. -/
def lenient (s : Text) (location : Location) : Path :=
  ⟨((Text.trim s).splitOn '.').map Text.trim, location⟩

/-- The first segment. -/
def head (p : Path) : Text :=
  p.segments.headD []

/-- Whether the path has a dot. -/
def isDotted (p : Path) : Bool :=
  1 < p.segments.length

/-- The segments joined by dots. -/
def text (p : Path) : Text :=
  Text.join ['.'] p.segments

end Path

end PageTemplate
