import PageTemplate.Directive
import PageTemplate.Node

/-!
# Open parts of a template

While the tokens of a template are read, every block, loop and choice whose closing tag has not
come yet is a frame that collects nodes.

## Main definitions

* `PageTemplate.Frame` — a part that is still open; `PageTemplate.Frame.Opening` — what it will be.
* `PageTemplate.Frame.close` — the node of a frame that is closed.
* `PageTemplate.Frame.unwind` — the nodes of a frame that is never closed.
-/

namespace PageTemplate

namespace Frame

/-- What an open part will be. A choice has the branches that are complete, and the condition and
the place of the branch being collected, which are missing once the last branch has begun. -/
inductive Opening where
  | block (name : Text)
  | loop (item : Text) (collection : Path)
  | choice (done : List Branch) (pending : Option (Condition × Location))

namespace Opening

/-- Whether the part is a block. -/
def isBlock : Opening → Bool
  | block _ => true
  | _ => false

/-- Whether the part is a loop. -/
def isLoop : Opening → Bool
  | loop _ _ => true
  | _ => false

/-- Whether the part is a choice. -/
def isChoice : Opening → Bool
  | choice _ _ => true
  | _ => false

end Opening

end Frame

/-- A part of a template that is still open: its opening tag as written, with its place, and the
nodes collected since that tag or since the last change of branch. -/
structure Frame where
  opening : Frame.Opening
  source : Text
  location : Location
  nodes : List Node

namespace Frame

/-- The frame with one more node. -/
def push (f : Frame) (node : Node) : Frame :=
  { f with nodes := f.nodes ++ [node] }

/-- The node of a frame when its closing tag comes. -/
def close (f : Frame) : Node :=
  match f.opening with
  | .block name => .block name f.nodes f.location
  | .loop item collection => .loop item collection f.nodes f.location
  | .choice done (some (condition, location)) =>
    .choice (done ++ [.mk condition f.nodes location]) none f.location
  | .choice done none => .choice done (some f.nodes) f.location

/-- The nodes in the branches of a choice that are complete. -/
def doneNodes : Opening → List Node
  | .choice done _ => done.flatMap Branch.body
  | _ => []

/-- The nodes of a frame whose closing tag never comes: its opening tag is inert, and everything
collected stays in order. -/
def unwind (f : Frame) : List Node :=
  .inert f.source f.location :: (doneNodes f.opening ++ f.nodes)

/-- The frame after a tag that begins its next branch, with a condition or, for the last branch,
without. Only a choice whose last branch has not begun has a next branch. -/
def nextBranch? (f : Frame) (next : Option (Condition × Location)) : Option Frame :=
  match f.opening with
  | .choice done (some (condition, location)) =>
    some { f with
      opening := .choice (done ++ [.mk condition f.nodes location]) next
      nodes := [] }
  | _ => none

end Frame

end PageTemplate
