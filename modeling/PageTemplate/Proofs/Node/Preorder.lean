import PageTemplate.Node

/-!
# The nodes of a tree in preorder

The nodes of a tree are listed in the order in which their tags stand in a source: a node comes
before the nodes within it, the branches of a choice come in their order, and the last branch comes
after them.

## Main definitions

* `PageTemplate.Node.preorder`, `PageTemplate.Node.preorderAll` — the nodes of a node and of a list
  of nodes.
* `PageTemplate.Node.inherit?` — the parent that a node itself names.

## Main statements

* `PageTemplate.Node.preorderAll_append` — lists of nodes are listed one after the other.
* `PageTemplate.Node.parentOf?_eq_findSome?` — the first parent of a tree is the first in this
  order.
-/

namespace PageTemplate.Node

mutual

/-- The node and the nodes within it. -/
def preorder : Node → List Node
  | block name body location => block name body location :: preorderAll body
  | loop item collection body location => loop item collection body location :: preorderAll body
  | choice branches otherwise location =>
    choice branches otherwise location ::
      (preorderBranches branches ++ preorderOtherwise otherwise)
  | text content location => [text content location]
  | output source expression location => [output source expression location]
  | inherit parent location => [inherit parent location]
  | inert source location => [inert source location]

/-- The nodes of a list and the nodes within them. -/
def preorderAll : List Node → List Node
  | [] => []
  | node :: nodes => preorder node ++ preorderAll nodes

/-- The nodes within branches. -/
def preorderBranches : List Branch → List Node
  | [] => []
  | branch :: branches => preorderBranch branch ++ preorderBranches branches

/-- The nodes within a branch. -/
def preorderBranch : Branch → List Node
  | .mk _ body _ => preorderAll body

/-- The nodes within the last branch of a choice. -/
def preorderOtherwise : Option (List Node) → List Node
  | none => []
  | some body => preorderAll body

end

@[simp] theorem preorderAll_nil : preorderAll [] = [] := rfl

@[simp] theorem preorderAll_cons (node : Node) (nodes : List Node) :
    preorderAll (node :: nodes) = preorder node ++ preorderAll nodes := rfl

@[simp] theorem preorderAll_append : (front back : List Node) →
    preorderAll (front ++ back) = preorderAll front ++ preorderAll back
  | [], _ => rfl
  | node :: front, back => by
    rw [List.cons_append, preorderAll_cons, preorderAll_append front back, preorderAll_cons,
      List.append_assoc]

/-! ### The first parent -/

/-- The parent that the node itself names, with its place. -/
def inherit? : Node → Option (Text × Location)
  | inherit parent location => some (parent, location)
  | _ => none

mutual

theorem parent?_eq_findSome? : (node : Node) → parent? node = (preorder node).findSome? inherit?
  | block name body location => by
    rw [parent?, preorder, List.findSome?_cons, parentOf?_eq_findSome? body]
    rfl
  | loop item collection body location => by
    rw [parent?, preorder, List.findSome?_cons, parentOf?_eq_findSome? body]
    rfl
  | choice branches otherwise location => by
    rw [parent?, preorder, List.findSome?_cons, List.findSome?_append,
      parentOfBranches?_eq_findSome? branches, parentOfOtherwise?_eq_findSome? otherwise]
    rfl
  | text _ _ => rfl
  | output _ _ _ => rfl
  | inherit _ _ => rfl
  | inert _ _ => rfl

/-- The first parent of a tree is the first in preorder. -/
theorem parentOf?_eq_findSome? : (nodes : List Node) →
    parentOf? nodes = (preorderAll nodes).findSome? inherit?
  | [] => rfl
  | node :: nodes => by
    rw [parentOf?, preorderAll_cons, List.findSome?_append, parent?_eq_findSome? node,
      parentOf?_eq_findSome? nodes]

theorem parentOfBranches?_eq_findSome? : (branches : List Branch) →
    parentOfBranches? branches = (preorderBranches branches).findSome? inherit?
  | [] => rfl
  | branch :: branches => by
    rw [parentOfBranches?, preorderBranches, List.findSome?_append,
      parentOfBranch?_eq_findSome? branch, parentOfBranches?_eq_findSome? branches]

theorem parentOfBranch?_eq_findSome? : (branch : Branch) →
    parentOfBranch? branch = (preorderBranch branch).findSome? inherit?
  | .mk _ body _ => parentOf?_eq_findSome? body

theorem parentOfOtherwise?_eq_findSome? : (otherwise : Option (List Node)) →
    parentOfOtherwise? otherwise = (preorderOtherwise otherwise).findSome? inherit?
  | none => rfl
  | some body => parentOf?_eq_findSome? body

end

end PageTemplate.Node
