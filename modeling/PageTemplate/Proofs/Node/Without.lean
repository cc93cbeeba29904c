import PageTemplate.Proofs.Node.Preorder

/-!
# Trees without some of their nodes

## Main definitions

* `PageTemplate.Node.without`, `PageTemplate.Node.withoutAll`, `PageTemplate.Template.without` — a
  node, nodes and a template with the nodes of a class taken out at every depth.
* `PageTemplate.Template.withoutInherit` — a template that names no parent.

## Main statements

* `PageTemplate.Node.preorderAll_without` — if the nodes of the class hold no others, all other
  nodes stay, in their order.
-/

namespace PageTemplate

namespace Node

mutual

/-- The node with the nodes of the class `p` within it taken out. -/
def without (p : Node → Bool) : Node → Node
  | block name body location => block name (withoutAll p body) location
  | loop item collection body location => loop item collection (withoutAll p body) location
  | choice branches otherwise location =>
    choice (withoutBranches p branches) (withoutOtherwise p otherwise) location
  | text content location => text content location
  | output source expression location => output source expression location
  | inherit parent location => inherit parent location
  | inert source location => inert source location

/-- The nodes with those of the class `p`, at every depth, taken out. -/
def withoutAll (p : Node → Bool) : List Node → List Node
  | [] => []
  | node :: nodes =>
    if p node then withoutAll p nodes else without p node :: withoutAll p nodes

/-- The branches with the nodes of the class `p` taken out. -/
def withoutBranches (p : Node → Bool) : List Branch → List Branch
  | [] => []
  | branch :: branches => withoutBranch p branch :: withoutBranches p branches

/-- The branch with the nodes of the class `p` taken out. -/
def withoutBranch (p : Node → Bool) : Branch → Branch
  | .mk condition body location => .mk condition (withoutAll p body) location

/-- The last branch of a choice with the nodes of the class `p` taken out. -/
def withoutOtherwise (p : Node → Bool) : Option (List Node) → Option (List Node)
  | none => none
  | some body => some (withoutAll p body)

end

@[simp] theorem condition_withoutBranch (p : Node → Bool) (branch : Branch) :
    (withoutBranch p branch).condition = branch.condition := by
  cases branch
  rfl

@[simp] theorem withoutAll_nil (p : Node → Bool) : withoutAll p [] = [] := rfl

theorem withoutAll_cons (p : Node → Bool) (node : Node) (nodes : List Node) :
    withoutAll p (node :: nodes) =
      if p node then withoutAll p nodes else without p node :: withoutAll p nodes := rfl

theorem withoutAll_append (p : Node → Bool) (front back : List Node) :
    withoutAll p (front ++ back) = withoutAll p front ++ withoutAll p back := by
  induction front with
  | nil => rfl
  | cons node front ih =>
    rw [List.cons_append, withoutAll_cons, withoutAll_cons, ih]
    split <;> rfl

theorem withoutBranches_eq_map (p : Node → Bool) (branches : List Branch) :
    withoutBranches p branches = branches.map (withoutBranch p) := by
  induction branches with
  | nil => rfl
  | cons branch branches ih => rw [withoutBranches, ih, List.map_cons]

/-! ### The nodes that stay -/

section Preorder

variable {p : Node → Bool}

/-- The nodes of the class `p` hold no other nodes. -/
def AreLeaves (p : Node → Bool) : Prop :=
  ∀ node, p node = true → preorder node = [node]

mutual

theorem preorder_without (hp : AreLeaves p) : (node : Node) → p node = false →
    preorder (without p node) = ((preorder node).filter fun n => !p n).map (without p)
  | block name body location, h => by
    rw [without, preorder, preorder, preorderAll_without hp body,
      List.filter_cons_of_pos (by simp [h]), List.map_cons, without]
  | loop item collection body location, h => by
    rw [without, preorder, preorder, preorderAll_without hp body,
      List.filter_cons_of_pos (by simp [h]), List.map_cons, without]
  | choice branches otherwise location, h => by
    rw [without, preorder, preorder, preorderBranches_without hp branches,
      preorderOtherwise_without hp otherwise, List.filter_cons_of_pos (by simp [h]), List.map_cons,
      without, List.filter_append, List.map_append]
  | text _ _, h => by simp [without, preorder, h]
  | output _ _ _, h => by simp [without, preorder, h]
  | inherit _ _, h => by simp [without, preorder, h]
  | inert _ _, h => by simp [without, preorder, h]

/-- If the nodes that are taken out hold no others, the other nodes stay in their order. -/
theorem preorderAll_without (hp : AreLeaves p) : (nodes : List Node) →
    preorderAll (withoutAll p nodes) =
      ((preorderAll nodes).filter fun n => !p n).map (without p)
  | [] => rfl
  | node :: nodes => by
    rw [withoutAll_cons, preorderAll_cons, List.filter_append, List.map_append]
    split
    · next h =>
      rw [hp node h, List.filter_cons_of_neg (by simp [h]), preorderAll_without hp nodes]
      rfl
    · next h =>
      rw [preorderAll_cons, preorder_without hp node (eq_false_of_ne_true h),
        preorderAll_without hp nodes]

theorem preorderBranches_without (hp : AreLeaves p) : (branches : List Branch) →
    preorderBranches (withoutBranches p branches) =
      ((preorderBranches branches).filter fun n => !p n).map (without p)
  | [] => rfl
  | branch :: branches => by
    rw [withoutBranches, preorderBranches, preorderBranches, preorderBranch_without hp branch,
      preorderBranches_without hp branches, List.filter_append, List.map_append]

theorem preorderBranch_without (hp : AreLeaves p) : (branch : Branch) →
    preorderBranch (withoutBranch p branch) =
      ((preorderBranch branch).filter fun n => !p n).map (without p)
  | .mk _ body _ => preorderAll_without hp body

theorem preorderOtherwise_without (hp : AreLeaves p) : (otherwise : Option (List Node)) →
    preorderOtherwise (withoutOtherwise p otherwise) =
      ((preorderOtherwise otherwise).filter fun n => !p n).map (without p)
  | none => rfl
  | some body => preorderAll_without hp body

end

/-- What is looked for, and not to be found among the nodes that are taken out, is found among the
others. -/
theorem findSome?_without {α : Type} {f : Node → Option α} {g : α → α}
    (hout : ∀ node, p node = true → f node = none)
    (hin : ∀ node, f (without p node) = (f node).map g) (nodes : List Node) :
    ((nodes.filter fun n => !p n).map (without p)).findSome? f = (nodes.findSome? f).map g := by
  induction nodes with
  | nil => rfl
  | cons node nodes ih =>
    cases h : p node with
    | true =>
      rw [List.filter_cons_of_neg (by simp [h]), ih, List.findSome?_cons, hout node h]
    | false =>
      rw [List.filter_cons_of_pos (by simp [h]), List.map_cons, List.findSome?_cons, hin, ih,
        List.findSome?_cons]
      cases f node <;> rfl

end Preorder

/-- Whether the node names a parent. -/
def isInherit : Node → Bool
  | inherit _ _ => true
  | _ => false

end Node

/-- The template with the nodes of the class `p` taken out. -/
def Template.without (p : Node → Bool) (t : Template) : Template :=
  ⟨Node.withoutAll p t.nodes, t.location⟩

/-- The template with the tags that name a parent taken out. -/
def Template.withoutInherit (t : Template) : Template :=
  ⟨Node.withoutAll Node.isInherit t.nodes, t.location⟩

end PageTemplate
