import PageTemplate.File.Store
import PageTemplate.Loader
import PageTemplate.Value
import PageTemplate.Yaml.Plain

/-!
# Settings of an application

Settings are read from a YAML mapping with three parts, each of which may be missing: `app` with
`name`, `url` and `debug`, `templates` with `root` and `extension`, and `globals` with any further
globals. Other keys do not count.

## Main definitions

* `PageTemplate.Settings` — the settings; `PageTemplate.Settings.default` — what holds where nothing
  is said.
* `PageTemplate.Settings.ofYaml`, `PageTemplate.Settings.load` — settings from a text and a file.
* `PageTemplate.Settings.pageGlobals` — the globals that every page sees.
-/

namespace PageTemplate

namespace Settings

/-- The application: its name and address, and whether it is being debugged. -/
structure App where
  name : Text
  url : Text
  debug : Bool
deriving DecidableEq

end Settings

/-- The settings of an application. -/
structure Settings where
  app : Settings.App
  templates : Loader
  globals : Entries Json

namespace Settings

/-- Why settings could not be had. -/
inductive Fault where
  | unreadable (path : FilePath) (fault : FileFault)
  | malformed (fault : Yaml.Fault)
  | invalidExtension (extension : Text)

namespace Fault

/-- The wording of a fault. -/
def message : Fault → Text
  | unreadable path fault => "Failed to read config " ++ path.text ++ ": " ++ fault.message
  | malformed fault => "Invalid YAML in config: " ++ fault.message
  | invalidExtension extension =>
    "Invalid config: template extension must be a bare suffix, got '" ++ extension ++ "'"

/-- The wordings of a fault and of what lies behind it. -/
def chain : Fault → List Text
  | unreadable path fault => [(unreadable path fault).message, fault.message]
  | malformed fault => [(malformed fault).message, fault.message]
  | invalidExtension extension => [(invalidExtension extension).message]

end Fault

/-- The application where nothing is said about it. -/
def defaultApp : App := ⟨"TicketFlow", "http://localhost:8000", true⟩

/-- Where templates are found if nothing is said about it. -/
def defaultLoader : Loader := ⟨⟨"templates"⟩, Loader.defaultExtension⟩

/-- The settings where nothing is said. -/
def default : Settings := ⟨defaultApp, defaultLoader, []⟩

/-! ### Reading -/

/-- The pairs of a mapping with their keys as texts; where nothing is written there are none. -/
def fields : Yaml.Node → Except Yaml.Fault (List (Text × Yaml.Node))
  | .scalar [] true => .ok []
  | .mapping pairs => pairs.mapM fun (key, value) =>
    match key.text? with
    | some key => .ok (key, value)
    | none => .error (.unfit "a text as key")
  | _ => .error (.unfit "a mapping")

/-- The value of a field that may be given at most once. -/
def field? (pairs : List (Text × Yaml.Node)) (name : Text) : Except Yaml.Fault (Option Yaml.Node) :=
  match pairs.filter fun (key, _) => key == name with
  | [] => .ok none
  | [(_, value)] => .ok (some value)
  | _ => .error (.unfit ("only one " ++ name))

/-- A field that holds a text. -/
def textField (pairs : List (Text × Yaml.Node)) (name otherwise : Text) :
    Except Yaml.Fault Text := do
  match ← field? pairs name with
  | none => return otherwise
  | some node =>
    let some text := node.text? | throw (.unfit ("a text for " ++ name))
    return text

/-- A field that holds a truth value. -/
def boolField (pairs : List (Text × Yaml.Node)) (name : Text) (otherwise : Bool) :
    Except Yaml.Fault Bool := do
  match ← field? pairs name with
  | none => return otherwise
  | some (.scalar text true) =>
    let some b := Yaml.readBool? text | throw (.unfit ("true or false for " ++ name))
    return b
  | some _ => throw (.unfit ("true or false for " ++ name))

/-- The application that a node describes. -/
def readApp (node : Yaml.Node) : Except Yaml.Fault App := do
  let pairs ← fields node
  return {
    name := ← textField pairs "name" defaultApp.name
    url := ← textField pairs "url" defaultApp.url
    debug := ← boolField pairs "debug" defaultApp.debug }

/-- The place of templates that a node describes. -/
def readLoader (node : Yaml.Node) : Except Yaml.Fault Loader := do
  let pairs ← fields node
  return {
    root := ⟨← textField pairs "root" defaultLoader.root.text⟩
    extension := ← textField pairs "extension" defaultLoader.extension }

/-- How deep the collections of a global may be nested: 128 levels less the two around it. -/
def globalDepth : Nat := 126

/-- The globals that a node describes. Of several of one name the last counts, in the place of the
first. -/
def readGlobals (node : Yaml.Node) : Except Yaml.Fault (Entries Json) := do
  let pairs ← fields node
  let globals ← pairs.mapM fun (key, value) => do return (key, ← value.toJson globalDepth)
  return Entries.ofList globals

/-- A part of the settings, or its default if it is missing. -/
def part {α : Type} (pairs : List (Text × Yaml.Node)) (name : Text)
    (read : Yaml.Node → Except Yaml.Fault α) (otherwise : α) : Except Yaml.Fault α := do
  match ← field? pairs name with
  | none => return otherwise
  | some node => read node

/-- The settings that a node describes. -/
def ofNode (node : Yaml.Node) : Except Yaml.Fault Settings := do
  let pairs ← fields node
  return {
    app := ← part pairs "app" readApp defaultApp
    templates := ← part pairs "templates" readLoader defaultLoader
    globals := ← part pairs "globals" readGlobals [] }

/-- Whether a text can be the extension of templates: it is not empty, and has no point and no
slash. -/
def isValidExtension (extension : Text) : Bool :=
  !extension.isEmpty && !extension.contains '.' && !extension.contains '/'

/-- The settings, unless the extension of templates is none. -/
def validate (s : Settings) : Except Fault Settings :=
  if isValidExtension s.templates.extension then .ok s
  else .error (.invalidExtension s.templates.extension)

/-- The settings of a YAML text; a blank text or one without a document says nothing. -/
def ofYaml (source : Text) : Except Fault Settings := do
  if (Text.trim source).isEmpty then validate default
  else
    let node ← (Yaml.read source).mapError Fault.malformed
    let settings ← (ofNode (node.getD Yaml.Node.empty)).mapError Fault.malformed
    validate settings

/-- The settings with a relative root of templates taken from the folder of the file they come
from. -/
def relativeTo (s : Settings) (path : FilePath) : Settings :=
  if s.templates.root.isAbsolute then s
  else
    match path.parent? with
    | some folder => { s with templates.root := folder.join s.templates.root.text }
    | none => s

/-- The settings in a file. -/
def load {m : Type → Type} [Monad m] [Files m] (path : FilePath) : m (Except Fault Settings) := do
  match ← Files.readText path with
  | .error fault => return .error (.unreadable path fault)
  | .ok source => return (ofYaml source).map (relativeTo · path)

/-! ### Globals of pages -/

/-- The globals that every page has: name and address of the application, the year, whether it is
being debugged, and that nobody is signed in. -/
def builtinGlobals (s : Settings) (year : Int) : Entries Value := [
  ("app_name", .string s.app.name),
  ("base_url", .string s.app.url),
  ("current_year", .int (Int64.ofInt year)),
  ("debug", .bool s.app.debug),
  ("isAuthenticated", .bool false)]

/-- The globals that every page sees: the built-in ones, then those of the settings, which replace
built-in ones of their names. -/
def pageGlobals (s : Settings) (year : Int) : Entries Value :=
  (s.builtinGlobals year).insertAll (s.globals.map fun (key, json) => (key, Value.ofJson json))

end Settings

end PageTemplate
