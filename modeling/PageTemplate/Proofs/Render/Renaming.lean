import PageTemplate.Proofs.Render.Likeness

/-!
# Names of loops

The name that a loop gives to its items can be changed together with its uses: in dotted outputs, in
conditions and in collections of loops, but not where an inner loop gives the same name to its own
items. A name alone in an output never means an item, so such outputs stay as they are. The new name
must not be used in the body before, neither for a value nor by a loop.

## Main definitions

* `PageTemplate.Node.renamed`, `PageTemplate.Node.renamedAll` — nodes with another name for an item.
* `PageTemplate.Node.Avoids` — a node that does not use a name.
* `PageTemplate.Scope.Renames` — scopes in which an item has two names.

## Main statements

* `PageTemplate.Node.renderAll_renamed` — nodes with another name for an item, in a scope with this
  name, have the text of the nodes before.
* `PageTemplate.Node.render_loop_renamed` — so loops may name their items as they like.
-/

namespace PageTemplate

/-! ### Renamed nodes -/

/-- A name, with `y` in place of `x`. -/
def Text.renamed (x y name : Text) : Text :=
  if name = x then y else name

/-- Another name than `x` and `y` is a renamed name only if it is the name itself. -/
theorem Text.eq_renamed_iff {x y name : Text} (hx : name ≠ x) (hy : name ≠ y) (other : Text) :
    name = renamed x y other ↔ name = other := by
  rw [renamed]
  split
  · next heq => exact ⟨fun h => absurd h hy, fun h => absurd (h.trans heq) hx⟩
  · rfl

/-- The path with `y` in place of the head `x`. -/
def Path.renamed (x y : Text) (p : Path) : Path :=
  { p with segments := p.segments.modifyHead (Text.renamed x y) }

theorem Path.isDotted_renamed (x y : Text) (p : Path) :
    (p.renamed x y).isDotted = p.isDotted := by
  simp only [isDotted, renamed, List.length_modifyHead]

theorem Path.head_renamed (x y : Text) {p : Path} (h : p.isDotted = true) :
    (p.renamed x y).head = Text.renamed x y p.head := by
  obtain ⟨segments, location⟩ := p
  cases segments with
  | nil => simp [isDotted] at h
  | cons name fields => rfl

/-- The expression with `y` in place of the head `x` of a dotted path. -/
def Expression.renamed (x y : Text) (e : Expression) : Expression :=
  if e.path.isDotted then { e with path := e.path.renamed x y } else e

/-- The condition with `y` in place of the head `x` of its path. -/
def Condition.renamed (x y : Text) : Condition → Condition
  | equals path literal => equals (path.renamed x y) literal
  | truthy path => truthy (path.renamed x y)

theorem Condition.path_renamed (x y : Text) (c : Condition) :
    (c.renamed x y).path = c.path.renamed x y := by
  cases c <;> rfl

theorem Condition.test_renamed (x y : Text) (c : Condition) :
    (c.renamed x y).test = c.test := by
  cases c <;> rfl

namespace Node

mutual

/-- The node with `y` as the name of the items that are called `x` around it. -/
def renamed (x y : Text) : Node → Node
  | output source expression location =>
    output source (expression.map (Expression.renamed x y)) location
  | block name body location => block name (renamedAll x y body) location
  | loop item collection body location =>
    loop item (collection.renamed x y) (if item = x then body else renamedAll x y body) location
  | choice branches otherwise location =>
    choice (renamedBranches x y branches) (renamedOtherwise x y otherwise) location
  | text content location => text content location
  | inherit parent location => inherit parent location
  | inert source location => inert source location

/-- The nodes with `y` as the name of the items that are called `x` around them. -/
def renamedAll (x y : Text) : List Node → List Node
  | [] => []
  | node :: nodes => renamed x y node :: renamedAll x y nodes

/-- The branches with `y` as the name of the items that are called `x` around them. -/
def renamedBranches (x y : Text) : List Branch → List Branch
  | [] => []
  | branch :: branches => renamedBranch x y branch :: renamedBranches x y branches

/-- The branch with `y` as the name of the items that are called `x` around it. -/
def renamedBranch (x y : Text) : Branch → Branch
  | .mk condition body location => .mk (condition.renamed x y) (renamedAll x y body) location

/-- The last branch of a choice with `y` as the name of the items that are called `x` around it. -/
def renamedOtherwise (x y : Text) : Option (List Node) → Option (List Node)
  | none => none
  | some body => some (renamedAll x y body)

end

/-- The node itself neither begins a dotted output, a condition or a collection with the name, nor
gives the name to items. -/
def Avoids (y : Text) : Node → Prop
  | output _ (some e) _ => e.path.isDotted = true → e.path.head ≠ y
  | loop item collection _ _ => item ≠ y ∧ collection.head ≠ y
  | choice branches _ _ => ∀ branch ∈ branches, branch.condition.path.head ≠ y
  | _ => True

instance (y : Text) : DecidablePred (Avoids y)
  | output _ (some e) _ => inferInstanceAs (Decidable (e.path.isDotted = true → e.path.head ≠ y))
  | loop item collection _ _ => inferInstanceAs (Decidable (item ≠ y ∧ collection.head ≠ y))
  | choice branches _ _ =>
    inferInstanceAs (Decidable (∀ branch ∈ branches, branch.condition.path.head ≠ y))
  | text _ _ => isTrue trivial
  | output _ none _ => isTrue trivial
  | inherit _ _ => isTrue trivial
  | block _ _ _ => isTrue trivial
  | inert _ _ => isTrue trivial

theorem Avoids.respects {y : Text} {node : Node} (h : node.Avoids y) :
    node.Respects Eq (· ≠ y) (fun _ => True) := by
  cases node with
  | output source expression location =>
    cases expression with
    | none => trivial
    | some e => exact ⟨Chain.respects_eq _, h, fun _ => trivial⟩
  | loop item collection body location => exact h.2
  | choice branches otherwise location => exact h
  | _ => trivial

end Node

/-! ### Scopes in which an item has two names -/

namespace Scope

/-- Every name other than `y` means in one scope what the renamed name means in the other. -/
structure Renames (x y : Text) (s s' : Scope) : Prop where
  lookup : ∀ name, name ≠ y → s.lookup? name = s'.lookup? (Text.renamed x y name)
  isLoopName : ∀ name, name ≠ y → s.isLoopName name = s'.isLoopName (Text.renamed x y name)
  topLevel : ∀ name, s.topLevel? name = s'.topLevel? name

/-- The scopes of two loops that name an item `x` and `y`. -/
theorem renames_push (s : Scope) (x y : Text) (item : Value) :
    Renames x y (s.push x item) (s.push y item) where
  lookup name hname := by
    rw [lookup?_push, lookup?_push, Text.renamed]
    by_cases h : name = x
    · simp [h]
    · simp [h, hname]
  isLoopName name hname := by
    rw [isLoopName_push, isLoopName_push, Text.renamed]
    by_cases h : name = x
    · simp [h]
    · rw [if_neg h, beq_eq_false_iff_ne.mpr (Ne.symm h), beq_eq_false_iff_ne.mpr (Ne.symm hname)]
  topLevel _ := rfl

namespace Renames

variable {x y : Text} {s s' : Scope}

/-- An inner loop with a name of its own. -/
theorem push (h : s.Renames x y s') {name : Text} (hx : name ≠ x) (hy : name ≠ y) (item : Value) :
    (s.push name item).Renames x y (s'.push name item) where
  lookup other hother := by
    have hiff : Text.renamed x y other = name ↔ other = name := by
      rw [eq_comm, Text.eq_renamed_iff hx hy, eq_comm]
    simp only [lookup?_push, hiff, h.lookup other hother]
  isLoopName other hother := by
    have hbeq : (name == Text.renamed x y other) = (name == other) := by
      rw [Bool.eq_iff_iff, beq_iff_eq, beq_iff_eq, Text.eq_renamed_iff hx hy]
    rw [isLoopName_push, isLoopName_push, hbeq, h.isLoopName other hother]
  topLevel := h.topLevel

/-- An inner loop that gives the name `x` to its own items: the names within it are not changed. -/
theorem alike_push (h : s.Renames x y s') (item : Value) :
    (s.push x item).Alike Eq (· ≠ y) (fun _ => True) (s'.push x item) where
  lookup other hother := by
    have heq : (s.push x item).lookup? other = (s'.push x item).lookup? other := by
      rw [lookup?_push, lookup?_push, h.lookup other hother, Text.renamed]
      split <;> rfl
    rw [heq]
    exact optionRel_refl Eq.refl _
  isLoopName other hother := by
    rw [isLoopName_push, isLoopName_push, h.isLoopName other hother, Text.renamed]
    by_cases heq : other = x
    · rw [heq, beq_self_eq_true, Bool.true_or, Bool.true_or]
    · rw [if_neg heq]
  topLevel name _ := by
    rw [topLevel?_push, topLevel?_push, h.topLevel name]
    exact optionRel_refl Eq.refl _

theorem resolve?_eq (h : s.Renames x y s') {path : Path} (hpath : path.head ≠ y) :
    s.resolve? path.segments = s'.resolve? (path.renamed x y).segments := by
  obtain ⟨segments, location⟩ := path
  cases segments with
  | nil => rfl
  | cons name fields =>
    have hlookup := h.lookup name hpath
    simp only [Path.renamed, List.modifyHead_cons, resolve?, hlookup]

theorem holds_eq (h : s.Renames x y s') {c : Condition} (hc : c.path.head ≠ y) :
    c.holds s = (c.renamed x y).holds s' := by
  rw [Condition.holds_eq_test, Condition.holds_eq_test, Condition.path_renamed,
    Condition.test_renamed, h.resolve?_eq hc]

theorem expressionText_eq (h : s.Renames x y s') {e : Expression}
    (he : e.path.isDotted = true → e.path.head ≠ y) (source : Text) :
    Render.expressionText s source e = Render.expressionText s' source (e.renamed x y) := by
  rw [Expression.renamed]
  split
  · next hdotted =>
    have hfilters : e.filters = ({ e with path := e.path.renamed x y } : Expression).filters := rfl
    refine Render.expressionText_eq Value.isLikeness_eq hfilters (Chain.respects_eq _)
      (Path.isDotted_renamed x y e.path).symm (fun _ => ?_) ?_ source
    · rw [Path.head_renamed x y hdotted]
      exact h.isLoopName _ (he hdotted)
    · simp only [Render.outputValue?, Path.isDotted_renamed, hdotted, if_true,
        h.resolve?_eq (he hdotted)]
      exact optionRel_refl Eq.refl _
  · next hbare =>
    refine Render.expressionText_eq Value.isLikeness_eq rfl (Chain.respects_eq _) rfl
      (fun hdotted => absurd hdotted hbare) ?_ source
    simp only [Render.outputValue?, hbare, h.topLevel]
    exact optionRel_refl Eq.refl _

end Renames

end Scope

/-! ### Renamed nodes in renamed scopes -/

namespace Node

variable {x y : Text}

theorem condition_renamedBranch (branch : Branch) :
    (renamedBranch x y branch).condition = branch.condition.renamed x y := by
  cases branch
  rfl

mutual

theorem render_renamed : (node : Node) → (∀ n ∈ preorder node, n.Avoids y) → {s s' : Scope} →
    s.Renames x y s' → (render node s).1 = (render (renamed x y node) s').1
  | text _ _, _, _, _, _ => rfl
  | output _ none _, _, _, _, _ => rfl
  | output source (some e) location, h, _, _, hs =>
    hs.expressionText_eq (h (output source (some e) location) (by simp [preorder])) source
  | inherit _ _, _, _, _, _ => rfl
  | block _ body _, h, _, _, hs => renderAll_renamed body (List.forall_mem_cons.mp h).2 hs
  | loop item collection body location, h, s, s', hs => by
    obtain ⟨⟨hitem, hcollection⟩, hbody⟩ := List.forall_mem_cons.mp h
    have hiteration : ∀ value, (renderAll body (s.push item value)).1 =
        (renderAll (if item = x then body else renamedAll x y body) (s'.push item value)).1 := by
      intro value
      split
      · next heq =>
        subst heq
        exact renderAll_alike Value.isLikeness_eq body (fun n hn => (hbody n hn).respects)
          (hs.alike_push value)
      · next hne => exact renderAll_renamed body hbody (hs.push hne hitem value)
    rw [renamed, render_loop_fst, render_loop_fst, hs.resolve?_eq hcollection]
    simp only [hiteration]
  | choice branches otherwise location, h, s, s', hs => by
    obtain ⟨hchoice, hrest⟩ := List.forall_mem_cons.mp h
    obtain ⟨hbranches, hotherwise⟩ := List.forall_mem_append.mp hrest
    rw [renamed, render_choice_fst, render_choice_fst,
      renderBranches?_renamed branches hchoice hbranches hs,
      renderOtherwise_renamed otherwise hotherwise hs]
  | inert _ _, _, _, _, _ => rfl

/-- **A name of items is not seen.** Nodes that call the item `y` have, in a scope where it is
called so, the text of nodes that call it `x`. -/
theorem renderAll_renamed : (nodes : List Node) → (∀ n ∈ preorderAll nodes, n.Avoids y) →
    {s s' : Scope} → s.Renames x y s' →
      (renderAll nodes s).1 = (renderAll (renamedAll x y nodes) s').1
  | [], _, _, _, _ => rfl
  | node :: nodes, h, s, s', hs => by
    obtain ⟨hnode, hnodes⟩ := List.forall_mem_append.mp h
    rw [renamedAll, renderAll_cons_fst, renderAll_cons_fst, render_renamed node hnode hs,
      renderAll_renamed nodes hnodes hs]

theorem renderBranches?_renamed : (branches : List Branch) →
    (∀ branch ∈ branches, branch.condition.path.head ≠ y) →
    (∀ n ∈ preorderBranches branches, n.Avoids y) → {s s' : Scope} → s.Renames x y s' →
      (renderBranches? branches s).map Prod.fst =
        (renderBranches? (renamedBranches x y branches) s').map Prod.fst
  | [], _, _, _, _, _ => rfl
  | branch :: branches, hheads, h, s, s', hs => by
    obtain ⟨hhead, hheads⟩ := List.forall_mem_cons.mp hheads
    obtain ⟨hbranch, hbranches⟩ := List.forall_mem_append.mp h
    rw [renamedBranches, renderBranches?, renderBranches?, hs.holds_eq hhead,
      condition_renamedBranch]
    split
    · exact congrArg some (renderBranch_renamed branch hbranch hs)
    · exact renderBranches?_renamed branches hheads hbranches hs

theorem renderBranch_renamed : (branch : Branch) → (∀ n ∈ preorderBranch branch, n.Avoids y) →
    {s s' : Scope} → s.Renames x y s' →
      (renderBranch branch s).1 = (renderBranch (renamedBranch x y branch) s').1
  | .mk _ body _, h, _, _, hs => renderAll_renamed body h hs

theorem renderOtherwise_renamed : (otherwise : Option (List Node)) →
    (∀ n ∈ preorderOtherwise otherwise, n.Avoids y) → {s s' : Scope} → s.Renames x y s' →
      (renderOtherwise otherwise s).1 = (renderOtherwise (renamedOtherwise x y otherwise) s').1
  | none, _, _, _, _ => rfl
  | some body, h, _, _, hs => renderAll_renamed body h hs

end

/-- **Loops may name their items as they like.** A loop keeps its text in every scope if its items
get another name that its body does not use, and the body calls them by this name. -/
theorem render_loop_renamed (x y : Text) (collection : Path) (body : List Node)
    (location : Location) (hy : ∀ n ∈ preorderAll body, n.Avoids y) (s : Scope) :
    render (loop y collection (renamedAll x y body) location) s =
      render (loop x collection body location) s := by
  have hiteration : ∀ value, (renderAll body (s.push x value)).1 =
      (renderAll (renamedAll x y body) (s.push y value)).1 :=
    fun value => renderAll_renamed body hy (s.renames_push x y value)
  refine Prod.ext ?_ ?_
  · rw [render_loop_fst, render_loop_fst]
    simp only [hiteration]
  · rw [render_snd, render_snd]

/-- The items of the outer loop get another name; the inner loop keeps its own, but not the name in
its collection, and the output of the name alone stays. -/
theorem render_loop_renamed_rows :
    let name (path : List Text) : Node := .output [] (some ⟨⟨path, .start⟩, []⟩) .start
    let open? (path : List Text) : Node :=
      .choice [.mk (.equals ⟨path, .start⟩ "open") [.text "!" .start] .start] none .start
    let body : List Node := [name ["x"], name ["x", "name"],
      .loop "x" ⟨["x", "tags"], .start⟩ [name ["x", "tag"]] .start, open? ["x", "state"]]
    let data : Value := .object [("x", .string "top "), ("xs", .array [.object
      [("name", .string "a "), ("tags", .array [.object [("tag", .int 1)]]),
        ("state", .string "open")]])]
    renamedAll "x" "row" body = [name ["x"], name ["row", "name"],
      .loop "x" ⟨["row", "tags"], .start⟩ [name ["x", "tag"]] .start, open? ["row", "state"]] ∧
    (∀ n ∈ preorderAll body, n.Avoids "row") ∧
    (render (.loop "x" ⟨["xs"], .start⟩ body .start) (Scope.ofData [] data)).1 = "top a 1!" ∧
    render (.loop "row" ⟨["xs"], .start⟩ (renamedAll "x" "row" body) .start)
        (Scope.ofData [] data) =
      render (.loop "x" ⟨["xs"], .start⟩ body .start) (Scope.ofData [] data) := by
  intro name open? body data
  have hy : ∀ n ∈ preorderAll body, n.Avoids "row" := by decide
  exact ⟨rfl, hy, by decide +kernel, render_loop_renamed "x" "row" _ body .start hy _⟩

end Node

end PageTemplate
