import PageTemplate.Node

/-!
# Trees without their places

Two trees that differ only in the places of their tags are the same once every place is taken for
the beginning of the source.

## Main definitions

* `PageTemplate.Node.unplaced`, `PageTemplate.Node.unplacedAll`, `PageTemplate.Template.unplaced` —
  a node, nodes and a template with all places forgotten.
-/

namespace PageTemplate

/-- The path with its place forgotten. -/
def Path.unplaced (p : Path) : Path :=
  { p with location := .start }

/-- The condition with its place forgotten. -/
def Condition.unplaced : Condition → Condition
  | .equals path literal => .equals path.unplaced literal
  | .truthy path => .truthy path.unplaced

/-- The expression with its place forgotten. -/
def Expression.unplaced (e : Expression) : Expression :=
  { e with path := e.path.unplaced }

theorem Path.map_unplaced_parse? (s : Text) (location : Location) :
    (Path.parse? s location).map Path.unplaced = Path.parse? s .start := by
  simp only [Path.parse?]
  split <;> rfl

theorem Expression.map_unplaced_parse? (s : Text) (location : Location) :
    (Expression.parse? s location).map Expression.unplaced = Expression.parse? s .start := by
  unfold Expression.parse?
  split
  · rfl
  · rw [← Path.map_unplaced_parse? _ location, Option.map_map, Option.map_map]
    rfl

namespace Node

mutual

/-- The node with all places in it forgotten. -/
def unplaced : Node → Node
  | text content _ => text content .start
  | output source expression _ => output source (expression.map Expression.unplaced) .start
  | inherit parent _ => inherit parent .start
  | block name body _ => block name (unplacedAll body) .start
  | loop item collection body _ => loop item collection.unplaced (unplacedAll body) .start
  | choice branches otherwise _ =>
    choice (unplacedBranches branches) (unplacedOtherwise otherwise) .start
  | inert source _ => inert source .start

/-- The nodes with all places in them forgotten. -/
def unplacedAll : List Node → List Node
  | [] => []
  | node :: nodes => unplaced node :: unplacedAll nodes

/-- The branches with all places in them forgotten. -/
def unplacedBranches : List Branch → List Branch
  | [] => []
  | branch :: branches => unplacedBranch branch :: unplacedBranches branches

/-- The branch with all places in it forgotten. -/
def unplacedBranch : Branch → Branch
  | .mk condition body _ => .mk condition.unplaced (unplacedAll body) .start

/-- The last branch of a choice with all places in it forgotten. -/
def unplacedOtherwise : Option (List Node) → Option (List Node)
  | none => none
  | some body => some (unplacedAll body)

end

end Node

/-- The template with all places in it forgotten. -/
def Template.unplaced (t : Template) : Template :=
  ⟨Node.unplacedAll t.nodes, .start⟩

end PageTemplate
