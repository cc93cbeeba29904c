import PageTemplate.File.Store
import PageTemplate.Inheritance
import PageTemplate.Template.Parse

/-!
# Templates by name

A loader finds templates below a root folder. A name such as `pages/tickets` consists of segments;
none of them may lead out of the root. The last one gets the extension of the loader, unless the
name ends in it already. Nothing is kept: every call reads the file again.

## Main definitions

* `PageTemplate.Loader` — a root and an extension.
* `PageTemplate.Loader.Fault` — why there is no template of a name.
* `PageTemplate.Loader.resolve?` — the path of a name.
* `PageTemplate.Loader.source`, `PageTemplate.Loader.load` — the source and the template of a name.
* `PageTemplate.Loader.inherit` — a template with its parent resolved.
-/

namespace PageTemplate

/-- Where templates are found: below a root, in files with an extension. -/
structure Loader where
  root : FilePath
  extension : Text
deriving DecidableEq

namespace Loader

/-- Why there is no template of a name: no file is found at the path, or the file there cannot be
read. -/
inductive Fault where
  | notFound (name : Text) (path : FilePath)
  | unreadable (fault : FileFault)
deriving DecidableEq

namespace Fault

/-- The wording of a fault. -/
def message : Fault → Text
  | notFound name path => "Template not found: " ++ name ++ " (" ++ path.text ++ ")"
  | unreadable fault => "IO error: " ++ fault.message

/-- The wordings of a fault and of what lies behind it. -/
def chain : Fault → List Text
  | notFound name path => [(notFound name path).message]
  | unreadable fault => [(unreadable fault).message, fault.message]

end Fault

/-- The extension of templates unless another is chosen. -/
def defaultExtension : Text := "twig"

/-- Whether a segment of a name stays within the root. -/
def isSafeSegment (segment : Text) : Bool :=
  segment != "." && segment != ".." && !segment.contains '\\' && !segment.contains ':'
    && !segment.contains '\x00'

/-- The segments of a name: what stands between its slashes, empty segments left out. -/
def segments (name : Text) : List Text :=
  (name.splitOn '/').filter fun segment => !segment.isEmpty

/-- The end of the file names of templates. -/
def suffix (l : Loader) : Text :=
  '.' :: l.extension

/-- The path of a name, or nothing if the name has no segments or one that could leave the root. -/
def resolve? (l : Loader) (name : Text) : Option FilePath :=
  let parts := segments name
  if parts.isEmpty || !parts.all isSafeSegment then none
  else
    let path := parts.foldl FilePath.join l.root
    if l.suffix.isSuffixOf name then some path
    else path.fileName?.map fun file => path.withFileName (file ++ l.suffix)

variable {m : Type → Type} [Monad m] [Files m]

/-- The source of a template. Octets that are no text are shown as U+FFFD. -/
def source (l : Loader) (name : Text) : m (Except Fault Text) := do
  match l.resolve? name with
  | none => return .error (.notFound name (l.root.join name))
  | some path =>
    if ← Files.isFile path then
      match ← Files.read path with
      | .ok octets => return .ok (Text.ofUtf8Lossy octets)
      | .error fault => return .error (.unreadable fault)
    else return .error (.notFound name path)

/-- The template of a name. -/
def load (l : Loader) (name : Text) : m (Except Fault Template) := do
  return (← l.source name).map Template.parse

/-- The template of a name, if there is one that can be read. -/
def load? (l : Loader) (name : Text) : m (Option Template) := do
  return (← l.load name).toOption

/-- The template in the tree of its parent. A template without a parent, or whose parent cannot be
found or read, stays as it is; the parent of the parent does not count. -/
def inherit (l : Loader) (t : Template) : m Template := do
  match t.parent? with
  | none => return t
  | some (name, _) =>
    match ← l.load? name with
    | none => return t
    | some parent => return parent.extend t

end Loader

end PageTemplate
