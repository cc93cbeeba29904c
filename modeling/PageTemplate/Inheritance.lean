import PageTemplate.Entries
import PageTemplate.Node

/-!
# Blocks of a child in the tree of its parent

A template that names a parent takes the tree of the parent, in which every block that the template
defines too has the body from the template. A body put in place is taken as it is: blocks within it
are not replaced again.

## Main definitions

* `PageTemplate.Node.blocksOf` — the blocks of nodes by name, in the order of their opening tags.
* `PageTemplate.Node.overrideAll` — nodes with other bodies for some of their blocks.
* `PageTemplate.Template.extend` — a parent with the blocks of a child.
-/

namespace PageTemplate

namespace Node

mutual

/-- The blocks of a node, outer before inner. -/
def blocks : Node → List (Text × List Node)
  | block name body _ => (name, body) :: blocksOf body
  | loop _ _ body _ => blocksOf body
  | choice branches otherwise _ => blocksOfBranches branches ++ blocksOfOtherwise otherwise
  | text _ _ => []
  | output _ _ _ => []
  | inherit _ _ => []
  | inert _ _ => []

/-- The blocks of nodes in order. -/
def blocksOf : List Node → List (Text × List Node)
  | [] => []
  | node :: nodes => blocks node ++ blocksOf nodes

/-- The blocks of branches in order. -/
def blocksOfBranches : List Branch → List (Text × List Node)
  | [] => []
  | branch :: branches => blocksOfBranch branch ++ blocksOfBranches branches

/-- The blocks of a branch. -/
def blocksOfBranch : Branch → List (Text × List Node)
  | .mk _ body _ => blocksOf body

/-- The blocks of the last branch of a choice. -/
def blocksOfOtherwise : Option (List Node) → List (Text × List Node)
  | none => []
  | some body => blocksOf body

end

/-- Bodies by the names of blocks; of several blocks of one name the last counts. -/
def bodiesOf (nodes : List Node) : Entries (List Node) :=
  Entries.ofList (blocksOf nodes)

mutual

/-- The node with the given bodies for blocks of their names. -/
def override (bodies : Entries (List Node)) : Node → Node
  | block name body location =>
    match Entries.get? bodies name with
    | some body => block name body location
    | none => block name (overrideAll bodies body) location
  | loop item collection body location => loop item collection (overrideAll bodies body) location
  | choice branches otherwise location =>
    choice (overrideBranches bodies branches) (overrideOtherwise bodies otherwise) location
  | text content location => text content location
  | output source expression location => output source expression location
  | inherit parent location => inherit parent location
  | inert source location => inert source location

/-- The nodes with the given bodies for blocks of their names. -/
def overrideAll (bodies : Entries (List Node)) : List Node → List Node
  | [] => []
  | node :: nodes => override bodies node :: overrideAll bodies nodes

/-- The branches with the given bodies for blocks of their names. -/
def overrideBranches (bodies : Entries (List Node)) : List Branch → List Branch
  | [] => []
  | branch :: branches => overrideBranch bodies branch :: overrideBranches bodies branches

/-- The branch with the given bodies for blocks of their names. -/
def overrideBranch (bodies : Entries (List Node)) : Branch → Branch
  | .mk condition body location => .mk condition (overrideAll bodies body) location

/-- The last branch of a choice with the given bodies for blocks of their names. -/
def overrideOtherwise (bodies : Entries (List Node)) : Option (List Node) → Option (List Node)
  | none => none
  | some body => some (overrideAll bodies body)

end

end Node

namespace Template

/-- The parent with the bodies of the blocks of the child. -/
def extend (parent child : Template) : Template :=
  ⟨Node.overrideAll (Node.bodiesOf child.nodes) parent.nodes, parent.location⟩

end Template

end PageTemplate
