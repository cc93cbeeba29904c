import PageTemplate.Entries
import PageTemplate.File.Path
import PageTemplate.Text.Utf8

/-!
# Files

Programs look for files, read and write them through `PageTemplate.Files`, either those of the
machine or those of a store, a tree of folders that is an ordinary value. A path leads through the
tree from its root, or from the folder that the program works in. An operation may also fail for
reasons that the tree does not show, as a whole and without changing anything.

## Main definitions

* `PageTemplate.FileFault` — why an operation on a file failed.
* `PageTemplate.Files` — the operations on files.
* `PageTemplate.Store` — folders and files, the folder to work in, and the operations that fail.
* `PageTemplate.Store.locate`, `PageTemplate.Store.content?` — the place that a path leads to, and
  the content of the file there.
* `PageTemplate.Store.findsFile`, `PageTemplate.Store.read?`, `PageTemplate.Store.makeFolders`,
  `PageTemplate.Store.write` — the operations.
-/

namespace PageTemplate

/-- Why an operation on a file failed. -/
inductive FileFault where
  | notFound
  | alreadyExists
  | notAFolder
  | isAFolder
  | notText
  | nulInName
  | denied
  | noSpace
  | other (message : Text)
deriving DecidableEq

namespace FileFault

/-- The wording of a fault, with the number of the system's error. -/
def message : FileFault → Text
  | notFound => "No such file or directory (os error 2)"
  | alreadyExists => "File exists (os error 17)"
  | notAFolder => "Not a directory (os error 20)"
  | isAFolder => "Is a directory (os error 21)"
  | notText => "stream did not contain valid UTF-8"
  | nulInName => "file name contained an unexpected NUL byte"
  | denied => "Permission denied (os error 13)"
  | noSpace => "No space left on device (os error 28)"
  | other message => message

end FileFault

/-- The operations on files: looking whether a path leads to a file, reading a whole file, making a
folder with the folders around it, and writing a whole file. -/
class Files (m : Type → Type) where
  isFile : FilePath → m Bool
  read : FilePath → m (Except FileFault Text.Octets)
  makeFolders : FilePath → m (Except FileFault Unit)
  write : FilePath → Text.Octets → m (Except FileFault Unit)

namespace Files

/-- Reads a file that must hold text. -/
def readText {m : Type → Type} [Monad m] [Files m] (path : FilePath) :
    m (Except FileFault Text) := do
  match ← Files.read path with
  | .error fault => return .error fault
  | .ok octets =>
    match Text.ofUtf8? octets with
    | some text => return .ok text
    | none => return .error .notText

end Files

namespace Store

/-- What is done with a path. -/
inductive Operation where
  | look
  | read
  | makeFolders
  | write
deriving DecidableEq

end Store

/-- Folders and files by their place: the names from the root, joined by slashes. The root itself is
not listed. A path without a slash in front starts from the current folder. Where there is a fault
for an operation on a path, as when permission is denied or the disk is full, the operation fails
and does nothing. -/
structure Store where
  folders : List Text
  files : Entries Text.Octets
  current : FilePath := ⟨"/"⟩
  fault? : Store.Operation → FilePath → Option FileFault := fun _ _ => none

namespace Store

/-- Nothing but a folder to work in. -/
def empty : Store := { folders := ["work"], files := [], current := ⟨"/work"⟩ }

/-- The names from the root as a place. -/
def place (names : List Text) : Text :=
  Text.join "/" names

/-- Whether there is a folder with these names. -/
def isFolder (s : Store) (names : List Text) : Bool :=
  names.isEmpty || s.folders.contains (place names)

/-- Whether there is a file with these names. -/
def isFile (s : Store) (names : List Text) : Bool :=
  (Entries.get? s.files (place names)).isSome

/-- The fault of going on from a place that is no folder. -/
def faultAt (s : Store) (names : List Text) : FileFault :=
  if s.isFile names then .notAFolder else .notFound

/-- The place reached from a folder by names, each taken from a folder; the last may be missing.
Above the root there is nothing but the root. -/
def walk (s : Store) : List Text → List Text → Except FileFault (List Text)
  | here, [] => .ok here
  | here, name :: rest =>
    if !s.isFolder here then .error (s.faultAt here)
    else if FilePath.isFiller name then walk s here rest
    else if name == ".." then walk s here.dropLast rest
    else walk s (here ++ [name]) rest

/-- The place that a path starts from: the root or the current folder. -/
def start (s : Store) (p : FilePath) : List Text :=
  if p.isAbsolute then [] else FilePath.namesIn s.current.text

/-- The place of a path. A slash at its end asks for a folder. -/
def locate (s : Store) (p : FilePath) : Except FileFault (List Text) :=
  if p.text.contains '\x00' then .error .nulInName
  else if p.text.isEmpty then .error .notFound
  else s.walk (s.start p) (p.text.splitOn '/')

/-- The content of the file that a path leads to. -/
def contentAt (s : Store) (p : FilePath) : Except FileFault Text.Octets := do
  let names ← s.locate p
  if s.isFolder names then throw .isAFolder
  match Entries.get? s.files (place names) with
  | some octets => return octets
  | none => throw .notFound

/-- The content of the file that a path leads to, if it leads to one. -/
def content? (s : Store) (p : FilePath) : Option Text.Octets :=
  (s.contentAt p).toOption

/-- Whether a file is found at a path. If one cannot look, none is found. -/
def findsFile (s : Store) (p : FilePath) : Bool :=
  (s.fault? .look p).isNone && (s.content? p).isSome

/-- The content of a file. -/
def read? (s : Store) (p : FilePath) : Except FileFault Text.Octets :=
  match s.fault? .read p with
  | some fault => .error fault
  | none => s.contentAt p

/-- The folder reached by all names but the last, with the last. -/
def folderOf (s : Store) (start names : List Text) (last : Text) :
    Except FileFault (List Text) := do
  let folder ← s.walk start names
  if !s.isFolder folder then throw (s.faultAt folder)
  return folder ++ [last]

/-- Makes one folder; the names lead to it from a place, the last name first. -/
def makeFolder (s : Store) (start : List Text) : List Text → Except FileFault Store
  | [] => .error .alreadyExists
  | last :: before => do
    if FilePath.isFiller last || last == ".." then
      let _ ← s.folderOf start before.reverse last
      throw .alreadyExists
    let names ← s.folderOf start before.reverse last
    if s.isFolder names || s.isFile names then throw .alreadyExists
    return { s with folders := s.folders ++ [place names] }

/-- Whether names, the last one first, lead from a place to a folder. -/
def leadsToFolder (s : Store) (start names : List Text) : Bool :=
  match s.walk start names.reverse with
  | .ok place => s.isFolder place
  | .error _ => false

/-- Makes a folder, given by names from a place with the last one first, together with the folders
around it. Folders made before a fault stay. -/
def makeAll (s : Store) (start : List Text) : List Text → Store × Except FileFault Unit
  | [] => (s, .ok ())
  | last :: before =>
    match s.makeFolder start (last :: before) with
    | .ok made => (made, .ok ())
    | .error .notFound =>
      match s.makeAll start before with
      | (around, .error fault) => (around, .error fault)
      | (around, .ok ()) =>
        match around.makeFolder start (last :: before) with
        | .ok made => (made, .ok ())
        | .error fault =>
          if around.leadsToFolder start (last :: before) then (around, .ok ())
          else (around, .error fault)
    | .error fault =>
      if s.leadsToFolder start (last :: before) then (s, .ok ()) else (s, .error fault)

/-- Makes a folder together with the folders around it. -/
def makeFolders (s : Store) (p : FilePath) : Store × Except FileFault Unit :=
  match s.fault? .makeFolders p with
  | some fault => (s, .error fault)
  | none =>
    if p.text.contains '\x00' then (s, .error .nulInName)
    else s.makeAll (s.start p) p.names.reverse

/-- The place that a path names for writing. -/
def locateForWriting (s : Store) (p : FilePath) : Except FileFault (List Text) := do
  if p.text.contains '\x00' then throw .nulInName
  if p.text.isEmpty then throw .notFound
  match p.names.reverse with
  | [] => throw .isAFolder
  | last :: before =>
    let names ← s.folderOf (s.start p) before.reverse last
    if p.text.getLast? == some '/' || last == "." || last == ".." then throw .isAFolder
    if s.isFolder names then throw .isAFolder
    return names

/-- Writes a file, in place of a file that is there already. -/
def write (s : Store) (p : FilePath) (octets : Text.Octets) : Store × Except FileFault Unit :=
  match s.fault? .write p with
  | some fault => (s, .error fault)
  | none =>
    match s.locateForWriting p with
    | .ok names => ({ s with files := Entries.insert s.files (place names) octets }, .ok ())
    | .error fault => (s, .error fault)

/-- The store without a file, and whether the file was there. -/
def remove (s : Store) (p : FilePath) : Store × Bool :=
  match s.locate p with
  | .ok names =>
    if s.isFile names then
      ({ s with files := s.files.filter fun (key, _) => key != place names }, true)
    else (s, false)
  | .error _ => (s, false)

/-- Looking for a file and reading one leave a store as it is. -/
instance : Files (StateM Store) where
  isFile p := fun s => (s.findsFile p, s)
  read p := fun s => (s.read? p, s)
  makeFolders p := fun s => let (s, result) := s.makeFolders p; (result, s)
  write p octets := fun s => let (s, result) := s.write p octets; (result, s)

end Store

end PageTemplate
