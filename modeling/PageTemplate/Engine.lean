import PageTemplate.Render
import PageTemplate.Settings

/-!
# The engine

An engine has a loader for templates and globals for all pages. Only one thing can go wrong: the
template of the name that is asked for cannot be found or read.

## Main definitions

* `PageTemplate.Engine` — a loader and globals.
* `PageTemplate.Engine.ofLoader`, `PageTemplate.Engine.ofSettings` — engines to begin with.
* `PageTemplate.Engine.addGlobal` — one more global.
* `PageTemplate.Engine.render`, `PageTemplate.Engine.renderSource` — the page of a named template,
  and of a source.
-/

namespace PageTemplate

/-- A loader for templates, and the globals that every page sees. -/
structure Engine where
  loader : Loader
  globals : Entries Value

namespace Engine

/-- The engine without globals. -/
def ofLoader (loader : Loader) : Engine := ⟨loader, []⟩

/-- The engine of an application in a year. -/
def ofSettings (settings : Settings) (year : Int) : Engine :=
  ⟨settings.templates, settings.pageGlobals year⟩

/-- The engine with a value for a global. -/
def addGlobal (e : Engine) (key : Text) (value : Value) : Engine :=
  { e with globals := e.globals.insert key value }

variable {m : Type → Type} [Monad m] [Files m]

/-- The page of a template, in the tree of its parent if it has one. -/
def renderTemplate (e : Engine) (t : Template) (data : Value) : m Text := do
  return (← e.loader.inherit t).render e.globals data

/-- The page of a source. -/
def renderSource (e : Engine) (source : Text) (data : Value) : m Text :=
  e.renderTemplate (Template.parse source) data

/-- The page of the template of a name. -/
def render (e : Engine) (name : Text) (data : Value) : m (Except Loader.Fault Text) := do
  match ← e.loader.load name with
  | .error fault => return .error fault
  | .ok t => return .ok (← e.renderTemplate t data)

end Engine

end PageTemplate
