import PageTemplate.Command.Help
import PageTemplate.Command.Report
import PageTemplate.Engine
import PageTemplate.Json.Reader
import PageTemplate.Text.Quoted

/-!
# Running commands

A command reads files, prints a page or a list of tokens, and may write the page to a file instead.
It reports the first thing that goes wrong, and then prints nothing else.

## Main definitions

* `PageTemplate.Command.Outcome` — what is printed, and whether all went well.
* `PageTemplate.Command.tokenLine` — a token in a list of tokens.
* `PageTemplate.Command.run`, `PageTemplate.Command.runArgs` — a command and a command line at
  work.
-/

namespace PageTemplate.Command

/-- How a command line ended: the exit code, and what is printed as output and as complaint. -/
structure Outcome where
  code : Nat
  output : Text
  complaint : Text
deriving DecidableEq

namespace Outcome

/-- All went well. -/
def success (output : Text) : Outcome := ⟨0, output, []⟩

/-- Something went wrong. -/
def failure (report : Report) : Outcome := ⟨1, [], report.text⟩

/-- The command line could not be understood. -/
def misuse (fault : UsageFault) : Outcome := ⟨2, [], "error: " ++ fault.message ++ "\n"⟩

end Outcome

/-- A token in a list: its place, its kind and its quoted value, in columns. -/
def tokenLine (t : Token) : Text :=
  Text.padLeft 4 (Decimal.ofNat t.location.line) ++ ":"
    ++ Text.padRight 3 (Decimal.ofNat t.location.column) ++ " "
    ++ Text.padRight 6 t.kind.name ++ " " ++ Text.quoted t.value ++ "\n"

/-- The key and the value of an assignment `KEY=VALUE`. Blanks around the key do not count, and
some key must be left. -/
def assignment? (s : Text) : Option (Text × Text) :=
  match Text.cutWhere? (· == '=') s with
  | some (key, value) =>
    let key := Text.trim key
    if key.isEmpty then none else some (key, value)
  | none => none

/-- A report that something could not be done with a path. -/
def reportAt (action : Text) (path : FilePath) (causes : List Text) : Report :=
  ⟨action ++ " " ++ Text.quoted path.text, causes⟩

/-- The engine with the values of assignments as globals. -/
def assign (e : Engine) : List Text → Except Report Engine
  | [] => .ok e
  | s :: rest =>
    match assignment? s with
    | some (key, value) => assign (e.addGlobal key (.string value)) rest
    | none => .error ⟨"Invalid --set '" ++ s ++ "', expected KEY=VALUE", []⟩

variable {m : Type → Type} [Monad m] [Files m]

/-- The settings that the options ask for. -/
def settingsFor (o : RenderOptions) : ExceptT Report m Settings := do
  let settings ←
    match o.config with
    | none => pure Settings.default
    | some path =>
      match ← (Settings.load path : m _) with
      | .ok settings => pure settings
      | .error fault => throw (reportAt "Failed to load config" path fault.chain)
  match o.root with
  | some root => return { settings with templates.root := root }
  | none => return settings

/-- The data in a file, or the empty object without a file. -/
def dataFor : Option FilePath → ExceptT Report m Value
  | none => return .object []
  | some path => do
    match ← (Files.readText path : m _) with
    | .error fault => throw (reportAt "Failed to read data file" path [fault.message])
    | .ok source =>
      match Json.read source with
      | .ok json => return Value.ofJson json
      | .error fault => throw ⟨"Failed to parse JSON data", [fault.message]⟩

/-- Writes a page to a file, with the folders around it. -/
def writePage (path : FilePath) (page : Text) : ExceptT Report m Unit := do
  match path.parent? with
  | some folder =>
    if !folder.text.isEmpty then
      match ← (Files.makeFolders folder : m _) with
      | .ok () => pure ()
      | .error fault => throw (reportAt "Failed to create" folder [fault.message])
  | none => pure ()
  match ← (Files.write path (Text.toUtf8 page) : m _) with
  | .ok () => return ()
  | .error fault => throw (reportAt "Failed to write" path [fault.message])

/-- Renders a template and prints the page, or writes it to a file. -/
def runRender (year : Int) (o : RenderOptions) : ExceptT Report m Text := do
  let settings ← settingsFor o
  let engine ← assign (Engine.ofSettings settings year) o.assignments
  let data ← dataFor o.data
  match ← (engine.render o.template data : m _) with
  | .error fault => throw ⟨"Failed to render '" ++ o.template ++ "'", fault.chain⟩
  | .ok page =>
    match o.output with
    | none => return page
    | some path =>
      writePage path page
      return []

/-- Prints the tokens of a source. -/
def runTokens (file : FilePath) : ExceptT Report m Text := do
  match ← (Files.readText file : m _) with
  | .error fault => throw (reportAt "Failed to read" file [fault.message])
  | .ok source => return (Token.tokenize source).flatMap tokenLine

/-- A command at work in a year. -/
def run (year : Int) (command : Command) : m Outcome := do
  let result ←
    match command with
    | render options => (runRender year options).run
    | tokens file => (runTokens file).run
    | help topic => pure (.ok topic.text)
    | version => pure (.ok versionText)
  match result with
  | .ok output => return .success output
  | .error report => return .failure report

/-- A command line at work in a year. -/
def runArgs (year : Int) (args : List Text) : m Outcome :=
  match ofArgs args with
  | .ok command => run year command
  | .error fault => return .misuse fault

end PageTemplate.Command
