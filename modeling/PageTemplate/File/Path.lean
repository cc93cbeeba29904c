import PageTemplate.Text.Basic

/-!
# Paths of files

A path is kept as it was written. Its components are the names between slashes; empty names, and
`.` other than at the beginning, do not count.

## Main definitions

* `PageTemplate.FilePath` — a path as written.
* `PageTemplate.FilePath.join` — one path after another.
* `PageTemplate.FilePath.parent?`, `PageTemplate.FilePath.fileName?` — the path without its last
  component, and that component.
* `PageTemplate.FilePath.withFileName` — the path with another last component.
* `PageTemplate.FilePath.namesIn`, `PageTemplate.FilePath.names` — the names between slashes.
-/

namespace PageTemplate

/-- A path as written, with slashes between names. -/
structure FilePath where
  text : Text
deriving DecidableEq

namespace FilePath

/-- A path from the root of the file system. -/
def isAbsolute (p : FilePath) : Bool :=
  p.text.head? == some '/'

/-- The second path taken from the first. A path from the root replaces the first one; a slash is
put between the two unless the first is empty or ends in one. -/
def join (p : FilePath) (s : Text) : FilePath :=
  if s.head? == some '/' then ⟨s⟩
  else if p.text.isEmpty || p.text.getLast? == some '/' then ⟨p.text ++ s⟩
  else ⟨p.text ++ '/' :: s⟩

/-- Whether a name between slashes does not count as a component. -/
def isFiller (name : Text) : Bool :=
  name.isEmpty || name == "."

/-- The part of a path that has no parent: the root, or a `.` at the beginning. -/
def stem (p : FilePath) : Text :=
  match p.text with
  | '/' :: _ => ['/']
  | ['.'] => ['.']
  | '.' :: '/' :: _ => ['.']
  | _ => []

/-- The names after the stem, fillers at the end left out, the last name first. -/
def namesBackwards (p : FilePath) : List Text :=
  ((p.text.drop p.stem.length).splitOn '/').reverse.dropWhile isFiller

/-- The path without its last component. The root and the empty path have no parent. -/
def parent? (p : FilePath) : Option FilePath :=
  match p.namesBackwards with
  | _ :: names => some ⟨p.stem ++ Text.join "/" (names.dropWhile isFiller).reverse⟩
  | [] => if p.stem == "." then some ⟨[]⟩ else none

/-- The last component, if it is a name. -/
def fileName? (p : FilePath) : Option Text :=
  p.namesBackwards.head?.filter fun name => name != ".."

/-- The path with another last component in place of a name, or after the path if it has none. -/
def withFileName (p : FilePath) (name : Text) : FilePath :=
  match p.fileName?, p.parent? with
  | some _, some parent => parent.join name
  | _, _ => p.join name

/-- The names between the slashes of a text, without those that do not count as components. -/
def namesIn (text : Text) : List Text :=
  (text.splitOn '/').filter fun name => !isFiller name

/-- The names between slashes, empty ones left out. -/
def names (p : FilePath) : List Text :=
  (p.text.splitOn '/').filter fun name => !name.isEmpty

end FilePath

end PageTemplate
