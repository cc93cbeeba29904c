import PageTemplate.Condition
import PageTemplate.Expression

/-!
# The tree of a template

## Main definitions

* `PageTemplate.Node` — a part of a template; `PageTemplate.Branch` — a branch of a choice.
* `PageTemplate.Template` — the nodes of a template.
* `PageTemplate.Node.parent?`, `PageTemplate.Template.parent?` — the first parent that is named.
-/

namespace PageTemplate

mutual

/-- A part of a template. An output keeps its source, and has an expression if one could be read.
A tag that plays no part in the structure is inert and keeps its source too. -/
inductive Node where
  | text (content : Text) (location : Location)
  | output (source : Text) (expression : Option Expression) (location : Location)
  | inherit (parent : Text) (location : Location)
  | block (name : Text) (body : List Node) (location : Location)
  | loop (item : Text) (collection : Path) (body : List Node) (location : Location)
  | choice (branches : List Branch) (otherwise : Option (List Node)) (location : Location)
  | inert (source : Text) (location : Location)

/-- A branch of a choice, taken if its condition is the first to hold. -/
inductive Branch where
  | mk (condition : Condition) (body : List Node) (location : Location)

end

namespace Branch

/-- The condition of the branch. -/
def condition : Branch → Condition
  | mk condition _ _ => condition

/-- The nodes of the branch. -/
def body : Branch → List Node
  | mk _ body _ => body

/-- The place of the tag that begins the branch. -/
def location : Branch → Location
  | mk _ _ location => location

end Branch

namespace Node

/-- The place where the node begins. -/
def location : Node → Location
  | text _ location => location
  | output _ _ location => location
  | inherit _ location => location
  | block _ _ location => location
  | loop _ _ _ location => location
  | choice _ _ location => location
  | inert _ location => location

/-! ### The first parent -/

mutual

/-- The first parent named in the node, with its place. -/
def parent? : Node → Option (Text × Location)
  | inherit parent location => some (parent, location)
  | block _ body _ => parentOf? body
  | loop _ _ body _ => parentOf? body
  | choice branches otherwise _ =>
    (parentOfBranches? branches).or (parentOfOtherwise? otherwise)
  | text _ _ => none
  | output _ _ _ => none
  | inert _ _ => none

/-- The first parent named in a list of nodes. -/
def parentOf? : List Node → Option (Text × Location)
  | [] => none
  | node :: nodes => (parent? node).or (parentOf? nodes)

/-- The first parent named in a list of branches. -/
def parentOfBranches? : List Branch → Option (Text × Location)
  | [] => none
  | branch :: branches => (parentOfBranch? branch).or (parentOfBranches? branches)

/-- The first parent named in a branch. -/
def parentOfBranch? : Branch → Option (Text × Location)
  | .mk _ body _ => parentOf? body

/-- The first parent named in the last branch of a choice. -/
def parentOfOtherwise? : Option (List Node) → Option (Text × Location)
  | none => none
  | some body => parentOf? body

end

end Node

/-- A template: its nodes, and the place where it begins. -/
structure Template where
  nodes : List Node
  location : Location

namespace Template

/-- The first parent that the template names, wherever the tag stands, with its place. -/
def parent? (t : Template) : Option (Text × Location) :=
  Node.parentOf? t.nodes

end Template

end PageTemplate
