import PageTemplate.Proofs.Node.Preorder
import PageTemplate.Render

/-!
# Choices with one branch

A choice of several branches can be written with choices of one branch each: what follows its first
branch becomes a choice of its own, which stands alone in the last branch of the first one. Done at
every depth of a tree, this changes the text of no node in any scope.

## Main definitions

* `PageTemplate.Node.chained` — the choice of branches, one within the last branch of the other.
* `PageTemplate.Node.single`, `PageTemplate.Node.singleAll` — nodes with all their choices written
  in this way.
* `PageTemplate.Node.branchCount` — the number of branches of a choice.

## Main statements

* `PageTemplate.Node.render_chained` — the text of one choice.
* `PageTemplate.Node.branchCount_singleAll` — no choice of several branches is left.
* `PageTemplate.Node.text_singleAll` — the text of nodes in any scope.
-/

namespace PageTemplate.Node

/-! ### Choices within choices -/

/-- The choice of the branches, in which what follows the first branch is a choice of its own and
all that its last branch holds. It begins with the tag of its first branch. -/
def chained : List Branch → Option (List Node) → Location → Node
  | branch :: next :: branches, otherwise, location =>
    choice [branch] (some [chained (next :: branches) otherwise next.location]) location
  | branches, otherwise, location => choice branches otherwise location

mutual

/-- The node with choices of one branch only. -/
def single : Node → Node
  | block name body location => block name (singleAll body) location
  | loop item collection body location => loop item collection (singleAll body) location
  | choice branches otherwise location =>
    chained (singleBranches branches) (singleOtherwise otherwise) location
  | text content location => text content location
  | output source expression location => output source expression location
  | inherit parent location => inherit parent location
  | inert source location => inert source location

/-- The nodes with choices of one branch only. -/
def singleAll : List Node → List Node
  | [] => []
  | node :: nodes => single node :: singleAll nodes

/-- The branches with choices of one branch only within them. -/
def singleBranches : List Branch → List Branch
  | [] => []
  | branch :: branches => singleBranch branch :: singleBranches branches

/-- The branch with choices of one branch only within it. -/
def singleBranch : Branch → Branch
  | .mk condition body location => .mk condition (singleAll body) location

/-- The last branch of a choice with choices of one branch only within it. -/
def singleOtherwise : Option (List Node) → Option (List Node)
  | none => none
  | some body => some (singleAll body)

end

theorem condition_singleBranch (branch : Branch) :
    (singleBranch branch).condition = branch.condition := by
  cases branch
  rfl

/-! ### The text stays -/

theorem renderAll_singleton (node : Node) (s : Scope) : renderAll [node] s = render node s := by
  simp [renderAll]

/-- The branches are tried in the same order, and the last branch comes after them all. -/
theorem render_chained (branches : List Branch) (otherwise : Option (List Node))
    (location : Location) (s : Scope) :
    render (chained branches otherwise location) s =
      render (choice branches otherwise location) s := by
  induction branches generalizing location with
  | nil => rfl
  | cons branch branches ih =>
    cases branches with
    | nil => rfl
    | cons next branches =>
      by_cases h : branch.condition.holds s = true
      · simp only [chained, render, renderBranches?, if_pos h]
      · have hrest : renderOtherwise (some [chained (next :: branches) otherwise next.location]) s =
            render (choice (next :: branches) otherwise next.location) s := by
          rw [renderOtherwise, renderAll_singleton, ih]
        simp only [chained, render, renderBranches?, if_neg h, hrest]

mutual

theorem render_single : (node : Node) → (s : Scope) → render (single node) s = render node s
  | block _ body _, s => renderAll_singleAll body s
  | loop item collection body location, s => by
    have hbody : renderAll (singleAll body) = renderAll body := funext (renderAll_singleAll body)
    rw [single, render, render, hbody]
  | choice branches otherwise location, s => by
    rw [single, render_chained, render, render, renderBranches?_singleBranches branches s,
      renderOtherwise_singleOtherwise otherwise s]
  | text _ _, _ => rfl
  | output _ _ _, _ => rfl
  | inherit _ _, _ => rfl
  | inert _ _, _ => rfl

/-- Nodes have the same text, and leave the same scope, with choices of one branch only. -/
theorem renderAll_singleAll : (nodes : List Node) → (s : Scope) →
    renderAll (singleAll nodes) s = renderAll nodes s
  | [], _ => rfl
  | node :: nodes, s => by
    simp only [singleAll, renderAll, render_single node s, renderAll_singleAll nodes]

theorem renderBranches?_singleBranches : (branches : List Branch) → (s : Scope) →
    renderBranches? (singleBranches branches) s = renderBranches? branches s
  | [], _ => rfl
  | branch :: branches, s => by
    rw [singleBranches, renderBranches?, renderBranches?, condition_singleBranch,
      renderBranch_singleBranch branch s, renderBranches?_singleBranches branches s]

theorem renderBranch_singleBranch : (branch : Branch) → (s : Scope) →
    renderBranch (singleBranch branch) s = renderBranch branch s
  | .mk _ body _, s => renderAll_singleAll body s

theorem renderOtherwise_singleOtherwise : (otherwise : Option (List Node)) → (s : Scope) →
    renderOtherwise (singleOtherwise otherwise) s = renderOtherwise otherwise s
  | none, _ => rfl
  | some body, s => renderAll_singleAll body s

end

/-! ### No choice of several branches -/

/-- The number of branches of a choice, without the last one that has no condition. -/
def branchCount : Node → Nat
  | choice branches _ _ => branches.length
  | _ => 0

theorem branchCount_chained (branches : List Branch) (otherwise : Option (List Node))
    (location : Location) (hbranches : ∀ n ∈ preorderBranches branches, n.branchCount ≤ 1)
    (hotherwise : ∀ n ∈ preorderOtherwise otherwise, n.branchCount ≤ 1) :
    ∀ n ∈ preorder (chained branches otherwise location), n.branchCount ≤ 1 := by
  induction branches generalizing location with
  | nil =>
    rw [chained, preorder, List.forall_mem_cons]
    · exact ⟨Nat.zero_le 1, hotherwise⟩
    · nofun
  | cons branch branches ih =>
    cases branches with
    | nil =>
      rw [chained, preorder, List.forall_mem_cons, List.forall_mem_append]
      · exact ⟨Nat.le_refl 1, hbranches, hotherwise⟩
      · nofun
    | cons next branches =>
      rw [preorderBranches, List.forall_mem_append] at hbranches
      have hrest := ih next.location hbranches.2
      simp only [chained, preorder, preorderBranches, preorderOtherwise, preorderAll_cons,
        preorderAll_nil, List.append_nil, List.forall_mem_cons, List.forall_mem_append]
      exact ⟨Nat.le_refl 1, hbranches.1, hrest⟩

mutual

theorem branchCount_single : (node : Node) → ∀ n ∈ preorder (single node), n.branchCount ≤ 1
  | block _ body _ =>
    List.forall_mem_cons.mpr ⟨Nat.zero_le 1, branchCount_singleAll body⟩
  | loop _ _ body _ =>
    List.forall_mem_cons.mpr ⟨Nat.zero_le 1, branchCount_singleAll body⟩
  | choice branches otherwise location =>
    branchCount_chained _ _ location (branchCount_singleBranches branches)
      (branchCount_singleOtherwise otherwise)
  | text _ _ | output _ _ _ | inherit _ _ | inert _ _ =>
    List.forall_mem_singleton.mpr (Nat.zero_le 1)

/-- No choice has more than one branch then. -/
theorem branchCount_singleAll : (nodes : List Node) →
    ∀ n ∈ preorderAll (singleAll nodes), n.branchCount ≤ 1
  | [] => nofun
  | node :: nodes =>
    List.forall_mem_append.mpr ⟨branchCount_single node, branchCount_singleAll nodes⟩

theorem branchCount_singleBranches : (branches : List Branch) →
    ∀ n ∈ preorderBranches (singleBranches branches), n.branchCount ≤ 1
  | [] => nofun
  | branch :: branches =>
    List.forall_mem_append.mpr
      ⟨branchCount_singleBranch branch, branchCount_singleBranches branches⟩

theorem branchCount_singleBranch : (branch : Branch) →
    ∀ n ∈ preorderBranch (singleBranch branch), n.branchCount ≤ 1
  | .mk _ body _ => branchCount_singleAll body

theorem branchCount_singleOtherwise : (otherwise : Option (List Node)) →
    ∀ n ∈ preorderOtherwise (singleOtherwise otherwise), n.branchCount ≤ 1
  | none => nofun
  | some body => branchCount_singleAll body

end

/-- **A choice of many branches is choices of one.** Choices of one branch within one another give
nodes the same text in every scope, outside all loops and within them, and no choice with more
branches remains at any depth. -/
theorem text_singleAll (nodes : List Node) :
    (∀ (globals : Entries Value) (data : Value) (items : List (Text × Value)),
      (renderAll (singleAll nodes) ⟨globals, data.entries, items⟩).1 =
        (renderAll nodes ⟨globals, data.entries, items⟩).1) ∧
      ∀ n ∈ preorderAll (singleAll nodes), n.branchCount ≤ 1 := by
  refine ⟨fun globals data items => ?_, branchCount_singleAll nodes⟩
  rw [renderAll_singleAll]

/-- Two branches and a last one. -/
example (first : Branch) (condition : Condition) (body otherwise : List Node)
    (location next : Location) :
    single (choice [first, .mk condition body next] (some otherwise) location) =
      choice [singleBranch first]
        (some [choice [.mk condition (singleAll body) next] (some (singleAll otherwise)) next])
        location :=
  rfl

end PageTemplate.Node
