import PageTemplate.Loader
import PageTemplate.Proofs.Entries.Overlay
import PageTemplate.Proofs.Node.Preorder
import PageTemplate.Proofs.Node.Without
import PageTemplate.Proofs.Render.Restored

/-!
# Blocks bound when they are met

The page of a template in the tree of its parent can be had without building that tree: the nodes of
the parent are evaluated as they are, and a block that is met takes the body of the last block of
its name in the child, if there is one, and its own body otherwise. A body taken from the child is
rendered as it stands, with the loop items of the place in the parent.

## Main definitions

* `PageTemplate.Node.lastBody?` — the body of the last block of a name.
* `PageTemplate.Node.lateText`, `PageTemplate.Node.lateTextAll` — the text of nodes whose blocks are
  bound when they are met.
* `PageTemplate.Template.lateText` — the page of a parent with its blocks bound to those of a child.

## Main statements

* `PageTemplate.Node.renderAll_overrideAll` — putting bodies in place of blocks and rendering is
  binding blocks late.
* `PageTemplate.Node.overrideAll_of_hasOwnBody`, `PageTemplate.Node.overrideAll_eq_self` — bodies
  that blocks have anyway, and bodies for names of no block, change nothing.
* `PageTemplate.Node.renderAll_without` — nodes without a text can be taken out.
* `PageTemplate.Loader.inherit_eq_lateText` — so is finding the parent of a template.
-/

namespace PageTemplate

namespace Node

/-! ### The last block of a name -/

/-- The body of a node that is a block of the name. -/
def bodyOf? (name : Text) : Node → Option (List Node)
  | block other body _ => if name = other then some body else none
  | _ => none

/-- The body of the last block of a name, wherever it stands in the nodes. Of two blocks the later
one is the one whose opening tag comes later. -/
def lastBody? (nodes : List Node) (name : Text) : Option (List Node) :=
  (preorderAll nodes).reverse.findSome? (bodyOf? name)

/-- The name and the body of a block. -/
def block? : Node → Option (Text × List Node)
  | block name body _ => some (name, body)
  | _ => none

mutual

theorem blocks_eq_filterMap : (node : Node) → blocks node = (preorder node).filterMap block?
  | block name body location => by
    rw [blocks, preorder, blocksOf_eq_filterMap body]
    rfl
  | loop item collection body location => by
    rw [blocks, preorder, blocksOf_eq_filterMap body]
    rfl
  | choice branches otherwise location => by
    rw [blocks, preorder, blocksOfBranches_eq_filterMap branches,
      blocksOfOtherwise_eq_filterMap otherwise, ← List.filterMap_append]
    rfl
  | text _ _ => rfl
  | output _ _ _ => rfl
  | inherit _ _ => rfl
  | inert _ _ => rfl

theorem blocksOf_eq_filterMap : (nodes : List Node) →
    blocksOf nodes = (preorderAll nodes).filterMap block?
  | [] => rfl
  | node :: nodes => by
    rw [blocksOf, preorderAll_cons, List.filterMap_append, blocks_eq_filterMap node,
      blocksOf_eq_filterMap nodes]

theorem blocksOfBranches_eq_filterMap : (branches : List Branch) →
    blocksOfBranches branches = (preorderBranches branches).filterMap block?
  | [] => rfl
  | branch :: branches => by
    rw [blocksOfBranches, preorderBranches, List.filterMap_append,
      blocksOfBranch_eq_filterMap branch, blocksOfBranches_eq_filterMap branches]

theorem blocksOfBranch_eq_filterMap : (branch : Branch) →
    blocksOfBranch branch = (preorderBranch branch).filterMap block?
  | .mk _ body _ => blocksOf_eq_filterMap body

theorem blocksOfOtherwise_eq_filterMap : (otherwise : Option (List Node)) →
    blocksOfOtherwise otherwise = (preorderOtherwise otherwise).filterMap block?
  | none => rfl
  | some body => blocksOf_eq_filterMap body

end

/-- The first block of a name among nodes is found in the list of all their blocks. -/
theorem get?_filterMap_block? (nodes : List Node) (name : Text) :
    Entries.get? (nodes.filterMap block?) name = nodes.findSome? (bodyOf? name) := by
  induction nodes with
  | nil => rfl
  | cons node nodes ih =>
    cases node with
    | block other body location =>
      have hcons : (block other body location :: nodes).filterMap block? =
          (other, body) :: nodes.filterMap block? := rfl
      rw [hcons, Entries.get?_cons, ih, List.findSome?_cons, bodyOf?]
      by_cases h : name = other <;> simp [h]
    | _ => exact ih

/-- The body that a block name of a child stands for is that of the last block of this name. -/
theorem get?_bodiesOf (nodes : List Node) (name : Text) :
    Entries.get? (bodiesOf nodes) name = lastBody? nodes name := by
  rw [bodiesOf, Entries.get?_ofList, blocksOf_eq_filterMap, ← List.filterMap_reverse,
    get?_filterMap_block?, lastBody?]

/-! ### Late binding -/

mutual

/-- The text of a node in a scope. A block that `bodies` has a body for has the text of that body,
in which no further block is bound; any other block has the text of its own body. -/
def lateText (bodies : Text → Option (List Node)) : Node → Scope → Text
  | text content _, _ => content
  | output source expression _, s => Render.outputText s source expression
  | inherit _ _, _ => []
  | block name body _, s =>
    match bodies name with
    | some other => (renderAll other s).1
    | none => lateTextAll bodies body s
  | loop item collection body _, s =>
    (Render.itemsOf (s.resolve? collection.segments)).flatMap fun value =>
      lateTextAll bodies body (s.push item value)
  | choice branches otherwise _, s =>
    (lateTextBranches? bodies branches s).getD (lateTextOtherwise bodies otherwise s)
  | inert _ _, _ => []

/-- The text of nodes in order. -/
def lateTextAll (bodies : Text → Option (List Node)) : List Node → Scope → Text
  | [], _ => []
  | node :: nodes, s => lateText bodies node s ++ lateTextAll bodies nodes s

/-- The text of the first branch whose condition holds. -/
def lateTextBranches? (bodies : Text → Option (List Node)) : List Branch → Scope → Option Text
  | [], _ => none
  | branch :: branches, s =>
    if branch.condition.holds s then some (lateTextBranch bodies branch s)
    else lateTextBranches? bodies branches s

/-- The text of a branch. -/
def lateTextBranch (bodies : Text → Option (List Node)) : Branch → Scope → Text
  | .mk _ body _, s => lateTextAll bodies body s

/-- The text of the last branch of a choice, if it has one. -/
def lateTextOtherwise (bodies : Text → Option (List Node)) : Option (List Node) → Scope → Text
  | none, _ => []
  | some body, s => lateTextAll bodies body s

end

/-! ### Putting bodies in place is binding them late -/

section Override

variable (bodies : Entries (List Node))

theorem condition_overrideBranch (branch : Branch) :
    (overrideBranch bodies branch).condition = branch.condition := by
  cases branch
  rfl

mutual

theorem render_override : (node : Node) → (s : Scope) →
    (render (override bodies node) s).1 = lateText (Entries.get? bodies) node s
  | text _ _, _ => rfl
  | output _ _ _, _ => rfl
  | inherit _ _, _ => rfl
  | block name body location, s => by
    cases hbody : Entries.get? bodies name with
    | some other =>
      simp only [override, lateText, hbody]
      rfl
    | none =>
      simp only [override, lateText, hbody]
      exact renderAll_overrideAll body s
  | loop item collection body location, s => by
    have hbody : ∀ value, (renderAll (overrideAll bodies body) (s.push item value)).1 =
        lateTextAll (Entries.get? bodies) body (s.push item value) :=
      fun value => renderAll_overrideAll body (s.push item value)
    rw [override, render_loop_fst, lateText]
    simp only [hbody]
  | choice branches otherwise location, s => by
    rw [override, render_choice_fst, lateText, renderBranches?_override branches s,
      renderOtherwise_override otherwise s]
  | inert _ _, _ => rfl

/-- **Overriding is late binding.** Rendering nodes with the given bodies in place of their blocks
gives the text of the nodes as they are with each block bound where it is met. -/
theorem renderAll_overrideAll : (nodes : List Node) → (s : Scope) →
    (renderAll (overrideAll bodies nodes) s).1 = lateTextAll (Entries.get? bodies) nodes s
  | [], _ => rfl
  | node :: nodes, s => by
    rw [overrideAll, renderAll_cons_fst, lateTextAll, render_override node s,
      renderAll_overrideAll nodes s]

theorem renderBranches?_override : (branches : List Branch) → (s : Scope) →
    (renderBranches? (overrideBranches bodies branches) s).map Prod.fst =
      lateTextBranches? (Entries.get? bodies) branches s
  | [], _ => rfl
  | branch :: branches, s => by
    rw [overrideBranches, renderBranches?, lateTextBranches?, condition_overrideBranch]
    split
    · exact congrArg some (renderBranch_override branch s)
    · exact renderBranches?_override branches s

theorem renderBranch_override : (branch : Branch) → (s : Scope) →
    (renderBranch (overrideBranch bodies branch) s).1 =
      lateTextBranch (Entries.get? bodies) branch s
  | .mk _ body _, s => renderAll_overrideAll body s

theorem renderOtherwise_override : (otherwise : Option (List Node)) → (s : Scope) →
    (renderOtherwise (overrideOtherwise bodies otherwise) s).1 =
      lateTextOtherwise (Entries.get? bodies) otherwise s
  | none, _ => rfl
  | some body, s => renderAll_overrideAll body s

end

end Override

/-! ### What late binding depends on -/

section Congr

variable {bodies bodies' : Text → Option (List Node)}

/-- The two assignments of bodies agree on the names of the blocks among the nodes. -/
def AgreeOnBlocks (bodies bodies' : Text → Option (List Node)) (nodes : List Node) : Prop :=
  ∀ name body location, block name body location ∈ nodes → bodies name = bodies' name

theorem AgreeOnBlocks.of_append {front back : List Node}
    (h : AgreeOnBlocks bodies bodies' (front ++ back)) :
    AgreeOnBlocks bodies bodies' front ∧ AgreeOnBlocks bodies bodies' back :=
  ⟨fun name body location hmem => h name body location (List.mem_append_left _ hmem),
    fun name body location hmem => h name body location (List.mem_append_right _ hmem)⟩

theorem AgreeOnBlocks.of_cons {node : Node} {nodes : List Node}
    (h : AgreeOnBlocks bodies bodies' (node :: nodes)) : AgreeOnBlocks bodies bodies' nodes :=
  fun name body location hmem => h name body location (List.mem_cons_of_mem _ hmem)

mutual

theorem lateText_congr : (node : Node) → AgreeOnBlocks bodies bodies' (preorder node) →
    (s : Scope) → lateText bodies node s = lateText bodies' node s
  | text _ _, _, _ => rfl
  | output _ _ _, _, _ => rfl
  | inherit _ _, _, _ => rfl
  | block name body location, h, s => by
    rw [lateText, lateText, h name body location List.mem_cons_self]
    split
    · rfl
    · exact lateTextAll_congr body h.of_cons s
  | loop item collection body location, h, s => by
    have hbody : ∀ value, lateTextAll bodies body (s.push item value) =
        lateTextAll bodies' body (s.push item value) :=
      fun value => lateTextAll_congr body h.of_cons (s.push item value)
    simp only [lateText, hbody]
  | choice branches otherwise location, h, s => by
    obtain ⟨hbranches, hotherwise⟩ := h.of_cons.of_append
    rw [lateText, lateText, lateTextBranches?_congr branches hbranches s,
      lateTextOtherwise_congr otherwise hotherwise s]
  | inert _ _, _, _ => rfl

/-- Only bodies for the names of blocks in the nodes count. -/
theorem lateTextAll_congr : (nodes : List Node) →
    AgreeOnBlocks bodies bodies' (preorderAll nodes) → (s : Scope) →
      lateTextAll bodies nodes s = lateTextAll bodies' nodes s
  | [], _, _ => rfl
  | node :: nodes, h, s => by
    obtain ⟨hnode, hnodes⟩ := AgreeOnBlocks.of_append h
    rw [lateTextAll, lateTextAll, lateText_congr node hnode s, lateTextAll_congr nodes hnodes s]

theorem lateTextBranches?_congr : (branches : List Branch) →
    AgreeOnBlocks bodies bodies' (preorderBranches branches) → (s : Scope) →
      lateTextBranches? bodies branches s = lateTextBranches? bodies' branches s
  | [], _, _ => rfl
  | branch :: branches, h, s => by
    obtain ⟨hbranch, hbranches⟩ := AgreeOnBlocks.of_append h
    rw [lateTextBranches?, lateTextBranches?, lateTextBranch_congr branch hbranch s,
      lateTextBranches?_congr branches hbranches s]

theorem lateTextBranch_congr : (branch : Branch) →
    AgreeOnBlocks bodies bodies' (preorderBranch branch) → (s : Scope) →
      lateTextBranch bodies branch s = lateTextBranch bodies' branch s
  | .mk _ body _, h, s => lateTextAll_congr body h s

theorem lateTextOtherwise_congr : (otherwise : Option (List Node)) →
    AgreeOnBlocks bodies bodies' (preorderOtherwise otherwise) → (s : Scope) →
      lateTextOtherwise bodies otherwise s = lateTextOtherwise bodies' otherwise s
  | none, _, _ => rfl
  | some body, h, s => lateTextAll_congr body h s

end

end Congr

/-! ### Bodies that change nothing -/

section Unchanged

variable {bodies : Entries (List Node)}

/-- If the node is a block that there is a body for, it has this body itself. -/
def HasOwnBody (bodies : Entries (List Node)) : Node → Prop
  | block name body _ => ∀ other, Entries.get? bodies name = some other → other = body
  | _ => True

mutual

theorem override_of_hasOwnBody : (node : Node) → (∀ n ∈ preorder node, n.HasOwnBody bodies) →
    override bodies node = node
  | block name body location, h => by
    obtain ⟨hname, hbody⟩ := List.forall_mem_cons.mp h
    cases hget : Entries.get? bodies name with
    | some other => simp only [override, hget, hname other hget]
    | none => simp only [override, hget, overrideAll_of_hasOwnBody body hbody]
  | loop item collection body location, h => by
    rw [override, overrideAll_of_hasOwnBody body (List.forall_mem_cons.mp h).2]
  | choice branches otherwise location, h => by
    obtain ⟨hbranches, hotherwise⟩ := List.forall_mem_append.mp (List.forall_mem_cons.mp h).2
    rw [override, overrideBranches_of_hasOwnBody branches hbranches,
      overrideOtherwise_of_hasOwnBody otherwise hotherwise]
  | text _ _, _ => rfl
  | output _ _ _, _ => rfl
  | inherit _ _, _ => rfl
  | inert _ _, _ => rfl

/-- Nodes stay as they are if each of their blocks that there is a body for has this body. -/
theorem overrideAll_of_hasOwnBody : (nodes : List Node) →
    (∀ n ∈ preorderAll nodes, n.HasOwnBody bodies) → overrideAll bodies nodes = nodes
  | [], _ => rfl
  | node :: nodes, h => by
    obtain ⟨hnode, hnodes⟩ := List.forall_mem_append.mp h
    rw [overrideAll, override_of_hasOwnBody node hnode, overrideAll_of_hasOwnBody nodes hnodes]

theorem overrideBranches_of_hasOwnBody : (branches : List Branch) →
    (∀ n ∈ preorderBranches branches, n.HasOwnBody bodies) →
      overrideBranches bodies branches = branches
  | [], _ => rfl
  | branch :: branches, h => by
    obtain ⟨hbranch, hbranches⟩ := List.forall_mem_append.mp h
    rw [overrideBranches, overrideBranch_of_hasOwnBody branch hbranch,
      overrideBranches_of_hasOwnBody branches hbranches]

theorem overrideBranch_of_hasOwnBody : (branch : Branch) →
    (∀ n ∈ preorderBranch branch, n.HasOwnBody bodies) → overrideBranch bodies branch = branch
  | .mk _ body _, h => by rw [overrideBranch, overrideAll_of_hasOwnBody body h]

theorem overrideOtherwise_of_hasOwnBody : (otherwise : Option (List Node)) →
    (∀ n ∈ preorderOtherwise otherwise, n.HasOwnBody bodies) →
      overrideOtherwise bodies otherwise = otherwise
  | none, _ => rfl
  | some body, h => by rw [overrideOtherwise, overrideAll_of_hasOwnBody body h]

end

/-- There is no body for the name of any block among the nodes. -/
abbrev HasNoBody (bodies : Entries (List Node)) (nodes : List Node) : Prop :=
  AgreeOnBlocks (Entries.get? bodies) (Entries.get? []) nodes

/-- Nodes without a block that there is a body for stay as they are. -/
theorem overrideAll_eq_self (nodes : List Node) (h : HasNoBody bodies (preorderAll nodes)) :
    overrideAll bodies nodes = nodes := by
  refine overrideAll_of_hasOwnBody nodes fun n hn => ?_
  cases n with
  | block name body location =>
    intro other hother
    exact absurd ((h name body location hn).symm.trans hother) (Option.some_ne_none other).symm
  | _ => trivial

/-- Without bodies to bind, late binding is rendering. -/
theorem lateTextAll_nil (nodes : List Node) (s : Scope) :
    lateTextAll (Entries.get? []) nodes s = (renderAll nodes s).1 := by
  rw [← renderAll_overrideAll, overrideAll_eq_self nodes fun _ _ _ _ => rfl]

end Unchanged

/-! ### Nodes without a text -/

section Without

variable {bodies : Text → Option (List Node)} {p : Node → Bool}

/-- The nodes of the class `p` have no text in any scope. -/
def AreSilent (bodies : Text → Option (List Node)) (p : Node → Bool) : Prop :=
  ∀ node, p node = true → ∀ s, lateText bodies node s = []

mutual

theorem lateText_without (hp : AreSilent bodies p) : (node : Node) → (s : Scope) →
    lateText bodies (without p node) s = lateText bodies node s
  | text _ _, _ => rfl
  | output _ _ _, _ => rfl
  | inherit _ _, _ => rfl
  | block name body location, s => by
    rw [without, lateText, lateText, lateTextAll_without hp body s]
  | loop item collection body location, s => by
    have hbody : ∀ value, lateTextAll bodies (withoutAll p body) (s.push item value) =
        lateTextAll bodies body (s.push item value) :=
      fun value => lateTextAll_without hp body (s.push item value)
    simp only [without, lateText, hbody]
  | choice branches otherwise location, s => by
    rw [without, lateText, lateText, lateTextBranches?_without hp branches s,
      lateTextOtherwise_without hp otherwise s]
  | inert _ _, _ => rfl

/-- Nodes without a text can be taken out. -/
theorem lateTextAll_without (hp : AreSilent bodies p) : (nodes : List Node) → (s : Scope) →
    lateTextAll bodies (withoutAll p nodes) s = lateTextAll bodies nodes s
  | [], _ => rfl
  | node :: nodes, s => by
    rw [withoutAll, lateTextAll]
    split
    · next h => rw [hp node h s, List.nil_append, lateTextAll_without hp nodes s]
    · rw [lateTextAll, lateText_without hp node s, lateTextAll_without hp nodes s]

theorem lateTextBranches?_without (hp : AreSilent bodies p) : (branches : List Branch) →
    (s : Scope) →
      lateTextBranches? bodies (withoutBranches p branches) s = lateTextBranches? bodies branches s
  | [], _ => rfl
  | branch :: branches, s => by
    rw [withoutBranches, lateTextBranches?, lateTextBranches?, condition_withoutBranch,
      lateTextBranch_without hp branch s, lateTextBranches?_without hp branches s]

theorem lateTextBranch_without (hp : AreSilent bodies p) : (branch : Branch) → (s : Scope) →
    lateTextBranch bodies (withoutBranch p branch) s = lateTextBranch bodies branch s
  | .mk _ body _, s => lateTextAll_without hp body s

theorem lateTextOtherwise_without (hp : AreSilent bodies p) :
    (otherwise : Option (List Node)) → (s : Scope) →
      lateTextOtherwise bodies (withoutOtherwise p otherwise) s =
        lateTextOtherwise bodies otherwise s
  | none, _ => rfl
  | some body, s => lateTextAll_without hp body s

end

/-- Nodes without a text can be taken out before rendering. -/
theorem renderAll_without (hp : AreSilent (Entries.get? []) p) (nodes : List Node) (s : Scope) :
    (renderAll (withoutAll p nodes) s).1 = (renderAll nodes s).1 := by
  rw [← lateTextAll_nil, lateTextAll_without hp, lateTextAll_nil]

end Without

/-- A tag that names a parent has no text. -/
theorem areSilent_isInherit (bodies : Text → Option (List Node)) :
    AreSilent bodies isInherit := by
  intro node h s
  cases node with
  | inherit parent location => rfl
  | _ => simp [isInherit] at h

end Node

/-! ### Pages -/

namespace Template

/-- The page of a parent in which every block that the child has a block of the same name for is
bound to the last of them. -/
def lateText (parent child : Template) (globals : Entries Value) (data : Value) : Text :=
  Node.lateTextAll (Node.lastBody? child.nodes) parent.nodes (Scope.ofData globals data)

theorem render_extend (parent child : Template) (globals : Entries Value) (data : Value) :
    (parent.extend child).render globals data = parent.lateText child globals data := by
  have hbodies : Entries.get? (Node.bodiesOf child.nodes) = Node.lastBody? child.nodes :=
    funext (Node.get?_bodiesOf child.nodes)
  rw [render, extend, Node.renderAll_overrideAll, hbodies, lateText]

end Template

namespace Loader

variable {m : Type → Type} [Monad m] [LawfulMonad m] [Files m]

/-- **Inheritance is late binding of blocks.** A template that names no parent stays as it is. What
becomes of a template that names one depends on the template that the name leads to and on no other:
if there is none, it stays as it is; otherwise its page is that of the parent with every block
bound, where it is met, to the last block of its name in the child. Nothing else of the child
counts, nor do the tags of the parent that name a parent themselves. -/
theorem inherit_eq_lateText (l : Loader) (child : Template) :
    (child.parent? = none → (l.inherit child : m Template) = pure child) ∧
    (∀ name location, child.parent? = some (name, location) →
      ∃ resolved : Option Template → Template,
        (l.inherit child : m Template) = resolved <$> l.load? name ∧
        resolved none = child ∧
        ∀ (parent : Template) (globals : Entries Value) (data : Value),
          (resolved (some parent)).render globals data = parent.lateText child globals data) ∧
    ∀ (parent : Template) (globals : Entries Value) (data : Value),
      (∀ other : Template,
        (∀ name body location, Node.block name body location ∈ Node.preorderAll parent.nodes →
          Node.lastBody? other.nodes name = Node.lastBody? child.nodes name) →
        parent.lateText other globals data = parent.lateText child globals data) ∧
      parent.withoutInherit.lateText child globals data =
        parent.lateText child globals data := by
  refine ⟨fun hnone => ?_, fun name location hsome => ?_, fun parent globals data => ⟨?_, ?_⟩⟩
  · rw [inherit, hnone]
  · let resolved : Option Template → Template
      | some parent => parent.extend child
      | none => child
    refine ⟨resolved, ?_, rfl, fun parent => parent.render_extend child⟩
    simp only [inherit, hsome, map_eq_pure_bind]
    refine congrArg _ (funext fun found => ?_)
    cases found <;> rfl
  · intro other hother
    exact Node.lateTextAll_congr parent.nodes hother _
  · exact Node.lateTextAll_without (Node.areSilent_isInherit _) parent.nodes _

/-- A parent whose block stands within a loop, and a child that has two blocks of its name, the last
of them within a loop of its own. -/
theorem inherit_eq_lateText_rows :
    let row : Node := .block "row" [.output [] (some ⟨⟨["i", "name"], .start⟩, []⟩) .start] .start
    let child : Template := ⟨[.inherit "base" .start, .text "outside" .start,
      .block "row" [.text "old" .start] .start, .loop "x" ⟨["ys"], .start⟩ [row] .start,
      .block "foot" [.text "foot" .start] .start], .start⟩
    let parent : Template := ⟨[.inherit "top" .start, .loop "i" ⟨["xs"], .start⟩
      [.block "row" [.text "-" .start] .start, .text ";" .start] .start], .start⟩
    let data : Value :=
      .object [("xs", .array [.object [("name", .string "a")], .object [("name", .string "b")]])]
    let l : Loader := ⟨⟨"templates"⟩, defaultExtension⟩
    child.parent? = some (("base" : Text), Location.start) ∧
    (∃ resolved : Option Template → Template,
      (l.inherit child : StateM Store Template) = resolved <$> l.load? "base" ∧
      resolved none = child ∧ (resolved (some parent)).render [] data = "a;b;") ∧
    parent.lateText ⟨[row], .start⟩ [] data = parent.lateText child [] data := by
  intro row child parent data l
  have hparent : child.parent? = some (("base" : Text), Location.start) := rfl
  have htext : parent.lateText child [] data = "a;b;" := by decide +kernel
  obtain ⟨-, hsome, hrest⟩ := inherit_eq_lateText (m := StateM Store) l child
  refine ⟨hparent, ?_, ?_⟩
  · obtain ⟨resolved, hinherit, hnone, hrender⟩ := hsome "base" .start hparent
    exact ⟨resolved, hinherit, hnone, (hrender parent [] data).trans htext⟩
  · refine (hrest parent [] data).1 ⟨[row], .start⟩ fun name body location hblock => ?_
    have hname : name = "row" := by
      simp only [parent, Node.preorderAll, Node.preorder, List.append_nil, List.mem_cons,
        List.cons_append, List.nil_append, reduceCtorEq, Node.block.injEq, List.not_mem_nil,
        false_or, or_false] at hblock
      exact hblock.1
    rw [hname]
    rfl

end Loader

end PageTemplate
