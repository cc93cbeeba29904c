import PageTemplate.Filter.Chain
import PageTemplate.Node
import PageTemplate.Scope

/-!
# Rendering

The nodes of a template are rendered in order, in a scope that loops change for their body and
restore after it. Rendering never fails: a bare name without a value has an empty text, a dotted
path without a value keeps its source, a loop over anything but an array has no iteration, and inert
tags leave nothing behind.

## Main definitions

* `PageTemplate.Render.outputText` — the text of an output.
* `PageTemplate.Render.each` — the text of the iterations of a loop.
* `PageTemplate.Node.render`, `PageTemplate.Node.renderAll` — the text of nodes, and the scope after
  them.
* `PageTemplate.Template.render` — the page of a template.
-/

namespace PageTemplate

namespace Render

/-- The value of the path of an output. A bare name never means the item of a loop. -/
def outputValue? (s : Scope) (path : Path) : Option Value :=
  if path.isDotted then s.resolve? path.segments else s.topLevel? path.head

/-- The text of an output that has an expression. The source stays as it is where a dotted path
leads nowhere, and where a container has no filter that could turn it into text; but fields of a
loop item always have a text. -/
def expressionText (s : Scope) (source : Text) (e : Expression) : Text :=
  let chain := Chain.ofFilters e.filters
  let value := outputValue? s e.path
  if (e.path.isDotted && s.isLoopName e.path.head) || chain.jsonEncode then chain.apply value
  else
    match value with
    | none => if e.path.isDotted then source else chain.apply none
    | some v => if v.isContainer && e.isPlain then source else chain.apply (some v)

/-- The text of an output; without an expression its source stays as it is. -/
def outputText (s : Scope) (source : Text) : Option Expression → Text
  | none => source
  | some e => expressionText s source e

/-- The texts of a body, one for each item, with the item in scope under the name. -/
def each (name : Text) (body : Scope → Text × Scope) : List Value → Scope → Text × Scope
  | [], s => ([], s)
  | item :: items, s =>
    let (front, s) := body (s.push name item)
    let (back, s) := each name body items s.pop
    (front ++ back, s)

end Render

namespace Node

mutual

/-- The text of a node, and the scope after it. -/
def render : Node → Scope → Text × Scope
  | text content _, s => (content, s)
  | output source expression _, s => (Render.outputText s source expression, s)
  | inherit _ _, s => ([], s)
  | block _ body _, s => renderAll body s
  | loop item collection body _, s =>
    match s.resolve? collection.segments with
    | some (.array items) => Render.each item (renderAll body) items s
    | _ => ([], s)
  | choice branches otherwise _, s =>
    match renderBranches? branches s with
    | some taken => taken
    | none => renderOtherwise otherwise s
  | inert _ _, s => ([], s)

/-- The text of nodes in order, and the scope after them. -/
def renderAll : List Node → Scope → Text × Scope
  | [], s => ([], s)
  | node :: nodes, s =>
    let (front, s) := render node s
    let (back, s) := renderAll nodes s
    (front ++ back, s)

/-- The text of the first branch whose condition holds. -/
def renderBranches? : List Branch → Scope → Option (Text × Scope)
  | [], _ => none
  | branch :: branches, s =>
    if branch.condition.holds s then some (renderBranch branch s) else renderBranches? branches s

/-- The text of a branch. -/
def renderBranch : Branch → Scope → Text × Scope
  | .mk _ body _, s => renderAll body s

/-- The text of the last branch of a choice, if it has one. -/
def renderOtherwise : Option (List Node) → Scope → Text × Scope
  | none, s => ([], s)
  | some body, s => renderAll body s

end

end Node

namespace Template

/-- The page of a template with the given globals and data. -/
def render (t : Template) (globals : Entries Value) (data : Value) : Text :=
  (Node.renderAll t.nodes (Scope.ofData globals data)).1

end Template

end PageTemplate
