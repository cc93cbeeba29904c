import PageTemplate.Proofs.Inheritance.LateBinding
import PageTemplate.Token

/-!
# Inert tags and inheritance

An inert tag has no text, names no parent and is no block. So inert tags may be taken out of a
template without changing its page. They may also be taken out of a child and of its parent before
the child takes the tree of the parent: this gives that tree without them.

## Main definitions

* `PageTemplate.Node.isInertOf` — the inert tags of a class of tokens.

## Main statements

* `PageTemplate.Template.parent?_without`, `PageTemplate.Template.render_without` — without inert
  tags a template names the same parent and has the same page.
* `PageTemplate.Template.extend_without` — inert tags can be taken out of a child and a parent
  before the two are put together.
-/

namespace PageTemplate

namespace Node

variable (q : Token → Bool)

/-- Whether the node is an inert tag of the class `q`. -/
def isInertOf : Node → Bool
  | inert source location => q ⟨.tag, source, location⟩
  | _ => false

variable {q} in
theorem exists_of_isInertOf {node : Node} (h : isInertOf q node = true) :
    ∃ source location, node = inert source location := by
  cases node with
  | inert source location => exact ⟨source, location, rfl⟩
  | _ => simp [isInertOf] at h

theorem areLeaves_isInertOf : AreLeaves (isInertOf q) := by
  intro node h
  obtain ⟨source, location, rfl⟩ := exists_of_isInertOf h
  rfl

theorem areSilent_isInertOf (bodies : Text → Option (List Node)) :
    AreSilent bodies (isInertOf q) := by
  intro node h s
  obtain ⟨source, location, rfl⟩ := exists_of_isInertOf h
  rfl

theorem parentOf?_without (nodes : List Node) :
    parentOf? (withoutAll (isInertOf q) nodes) = parentOf? nodes := by
  have hout : ∀ node, isInertOf q node = true → inherit? node = none := by
    intro node h
    obtain ⟨source, location, rfl⟩ := exists_of_isInertOf h
    rfl
  have hin : ∀ node, inherit? (without (isInertOf q) node) = (inherit? node).map id := by
    intro node
    cases node <;> rfl
  rw [parentOf?_eq_findSome?, parentOf?_eq_findSome?, preorderAll_without (areLeaves_isInertOf q),
    findSome?_without hout hin, Option.map_id_fun, id]

/-- The last block of a name is the same block, without the inert tags in its body. -/
theorem lastBody?_without (nodes : List Node) (name : Text) :
    lastBody? (withoutAll (isInertOf q) nodes) name =
      (lastBody? nodes name).map (withoutAll (isInertOf q)) := by
  have hout : ∀ node, isInertOf q node = true → bodyOf? name node = none := by
    intro node h
    obtain ⟨source, location, rfl⟩ := exists_of_isInertOf h
    rfl
  have hin : ∀ node, bodyOf? name (without (isInertOf q) node) =
      (bodyOf? name node).map (withoutAll (isInertOf q)) := by
    intro node
    cases node with
    | block other body location =>
      simp only [without, bodyOf?]
      split <;> rfl
    | _ => rfl
  rw [lastBody?, preorderAll_without (areLeaves_isInertOf q), ← List.map_reverse,
    ← List.filter_reverse, findSome?_without hout hin, lastBody?]

/-! ### Putting bodies in place -/

section Override

variable {q : Token → Bool} {bodies bodies' : Entries (List Node)}

/-- The first bodies are the second ones without their inert tags. -/
def AreBodiesWithout (q : Token → Bool) (bodies' bodies : Entries (List Node)) : Prop :=
  ∀ name, Entries.get? bodies' name = (Entries.get? bodies name).map (withoutAll (isInertOf q))

theorem isInertOf_override (node : Node) :
    isInertOf q (override bodies node) = isInertOf q node := by
  cases node with
  | block name body location =>
    rw [override]
    split <;> rfl
  | _ => rfl

mutual

theorem override_without (h : AreBodiesWithout q bodies' bodies) : (node : Node) →
    override bodies' (without (isInertOf q) node) = without (isInertOf q) (override bodies node)
  | block name body location => by
    cases hbody : Entries.get? bodies name with
    | some other => simp only [override, without, h name, hbody, Option.map_some]
    | none =>
      simp only [override, without, h name, hbody, Option.map_none, overrideAll_without h body]
  | loop item collection body location => by
    rw [override, without, without, override, overrideAll_without h body]
  | choice branches otherwise location => by
    rw [override, without, without, override, overrideBranches_without h branches,
      overrideOtherwise_without h otherwise]
  | text _ _ => rfl
  | output _ _ _ => rfl
  | inherit _ _ => rfl
  | inert _ _ => rfl

/-- Inert tags can be taken out before bodies are put in place, or after it. -/
theorem overrideAll_without (h : AreBodiesWithout q bodies' bodies) : (nodes : List Node) →
    overrideAll bodies' (withoutAll (isInertOf q) nodes) =
      withoutAll (isInertOf q) (overrideAll bodies nodes)
  | [] => rfl
  | node :: nodes => by
    rw [overrideAll, withoutAll_cons, withoutAll_cons, isInertOf_override]
    split
    · exact overrideAll_without h nodes
    · rw [overrideAll, override_without h node, overrideAll_without h nodes]

theorem overrideBranches_without (h : AreBodiesWithout q bodies' bodies) :
    (branches : List Branch) →
      overrideBranches bodies' (withoutBranches (isInertOf q) branches) =
        withoutBranches (isInertOf q) (overrideBranches bodies branches)
  | [] => rfl
  | branch :: branches => by
    rw [overrideBranches, withoutBranches, withoutBranches, overrideBranches,
      overrideBranch_without h branch, overrideBranches_without h branches]

theorem overrideBranch_without (h : AreBodiesWithout q bodies' bodies) : (branch : Branch) →
    overrideBranch bodies' (withoutBranch (isInertOf q) branch) =
      withoutBranch (isInertOf q) (overrideBranch bodies branch)
  | .mk _ body _ => by
    rw [overrideBranch, withoutBranch, withoutBranch, overrideBranch, overrideAll_without h body]

theorem overrideOtherwise_without (h : AreBodiesWithout q bodies' bodies) :
    (otherwise : Option (List Node)) →
      overrideOtherwise bodies' (withoutOtherwise (isInertOf q) otherwise) =
        withoutOtherwise (isInertOf q) (overrideOtherwise bodies otherwise)
  | none => rfl
  | some body => by
    rw [overrideOtherwise, withoutOtherwise, withoutOtherwise, overrideOtherwise,
      overrideAll_without h body]

end

end Override

end Node

/-! ### Templates -/

namespace Template

variable (q : Token → Bool)

theorem parent?_without (t : Template) : (t.without (Node.isInertOf q)).parent? = t.parent? :=
  Node.parentOf?_without q t.nodes

/-- Inert tags do not show on the page. -/
theorem render_without (t : Template) (globals : Entries Value) (data : Value) :
    (t.without (Node.isInertOf q)).render globals data = t.render globals data :=
  Node.renderAll_without (Node.areSilent_isInertOf q _) t.nodes _

/-- Inert tags can be taken out of a child and a parent before the child takes the tree of the
parent, or after it. -/
theorem extend_without (parent child : Template) :
    (parent.without (Node.isInertOf q)).extend (child.without (Node.isInertOf q)) =
      (parent.extend child).without (Node.isInertOf q) := by
  have hbodies : Node.AreBodiesWithout q
      (Node.bodiesOf (child.without (Node.isInertOf q)).nodes) (Node.bodiesOf child.nodes) := by
    intro name
    rw [Node.get?_bodiesOf, Node.get?_bodiesOf]
    exact Node.lastBody?_without q child.nodes name
  exact congrArg (Template.mk · parent.location) (Node.overrideAll_without hbodies parent.nodes)

end Template

end PageTemplate
