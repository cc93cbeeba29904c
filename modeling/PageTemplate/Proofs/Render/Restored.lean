import PageTemplate.Render

/-!
# The scope after rendering

Rendering hands the scope from one node to the next, but every node leaves it as it was: a loop
takes away each item that it has put there. So the text of nodes is that of each node in the same
scope, and the text of a loop is that of its body in the scope with each item.

## Main definitions

* `PageTemplate.Render.itemsOf` — the items that a loop runs through.

## Main statements

* `PageTemplate.Node.renderAll_snd` — nodes leave the scope as it was.
* `PageTemplate.Node.renderAll_fst`, `PageTemplate.Node.render_loop_fst`,
  `PageTemplate.Node.render_choice_fst` — the texts of nodes, of loops and of choices.
-/

namespace PageTemplate

namespace Render

/-- A body that leaves the scope as it was does so in all iterations, which begin in one scope. -/
theorem each_eq_flatMap (name : Text) {body : Scope → Text × Scope} (hbody : ∀ s, (body s).2 = s)
    (items : List Value) (s : Scope) :
    each name body items s = (items.flatMap fun item => (body (s.push name item)).1, s) := by
  induction items with
  | nil => rfl
  | cons item items ih =>
    have hpop : (body (s.push name item)).2.pop = s := by rw [hbody, Scope.pop_push]
    simp only [each, hpop, ih, List.flatMap_cons]

/-- The items that a loop over a value runs through: those of an array, and none otherwise. -/
def itemsOf : Option Value → List Value
  | some (.array items) => items
  | _ => []

theorem itemsOf_eq_nil {value : Option Value} (h : ∀ items, value = some (.array items) → False) :
    itemsOf value = [] := by
  rw [itemsOf]
  exact h

end Render

namespace Node

mutual

theorem render_snd : (node : Node) → (s : Scope) → (render node s).2 = s
  | text _ _, _ => rfl
  | output _ _ _, _ => rfl
  | inherit _ _, _ => rfl
  | block _ body _, s => renderAll_snd body s
  | loop item collection body _, s => by
    rw [render]
    split
    · rw [Render.each_eq_flatMap item (renderAll_snd body)]
    · rfl
  | choice branches otherwise _, s => by
    rw [render]
    split
    · next taken htaken => exact renderBranches?_snd branches s taken htaken
    · exact renderOtherwise_snd otherwise s
  | inert _ _, _ => rfl

/-- **Rendering restores the scope.** Whatever the nodes, the scope after them is the scope before
them, with the same items of the loops around them. -/
theorem renderAll_snd : (nodes : List Node) → (s : Scope) → (renderAll nodes s).2 = s
  | [], _ => rfl
  | node :: nodes, s => by
    simp only [renderAll]
    rw [renderAll_snd nodes, render_snd node s]

theorem renderBranches?_snd : (branches : List Branch) → (s : Scope) → (taken : Text × Scope) →
    renderBranches? branches s = some taken → taken.2 = s
  | [], _, _, htaken => by simp [renderBranches?] at htaken
  | branch :: branches, s, taken, htaken => by
    rw [renderBranches?] at htaken
    split at htaken
    · rw [← Option.some.inj htaken]
      exact renderBranch_snd branch s
    · exact renderBranches?_snd branches s taken htaken

theorem renderBranch_snd : (branch : Branch) → (s : Scope) → (renderBranch branch s).2 = s
  | .mk _ body _, s => renderAll_snd body s

theorem renderOtherwise_snd : (otherwise : Option (List Node)) → (s : Scope) →
    (renderOtherwise otherwise s).2 = s
  | none, _ => rfl
  | some body, s => renderAll_snd body s

end

theorem renderAll_cons_fst (node : Node) (nodes : List Node) (s : Scope) :
    (renderAll (node :: nodes) s).1 = (render node s).1 ++ (renderAll nodes s).1 := by
  simp only [renderAll]
  rw [render_snd]

/-- The text of nodes is that of each node in the scope before them all. -/
theorem renderAll_fst (nodes : List Node) (s : Scope) :
    (renderAll nodes s).1 = nodes.flatMap fun node => (render node s).1 := by
  induction nodes with
  | nil => rfl
  | cons node nodes ih => rw [renderAll_cons_fst, ih, List.flatMap_cons]

theorem renderAll_append_fst (front back : List Node) (s : Scope) :
    (renderAll (front ++ back) s).1 = (renderAll front s).1 ++ (renderAll back s).1 := by
  rw [renderAll_fst, List.flatMap_append, ← renderAll_fst, ← renderAll_fst]

theorem renderAll_flatMap_fst {α : Type} (f : α → List Node) (parts : List α) (s : Scope) :
    (renderAll (parts.flatMap f) s).1 = parts.flatMap fun part => (renderAll (f part) s).1 := by
  simp only [renderAll_fst, List.flatMap_assoc]

/-- A loop has the texts of its body, each in the scope of the loop with one more item. -/
theorem render_loop_fst (item : Text) (collection : Path) (body : List Node) (location : Location)
    (s : Scope) :
    (render (loop item collection body location) s).1 =
      (Render.itemsOf (s.resolve? collection.segments)).flatMap fun value =>
        (renderAll body (s.push item value)).1 := by
  rw [render]
  split
  · next items hitems =>
    rw [hitems, Render.each_eq_flatMap item (renderAll_snd body)]
    rfl
  · next hnone =>
    rw [Render.itemsOf_eq_nil hnone]
    rfl

/-- A choice has the text of the branch that is taken, or else that of its last branch. -/
theorem render_choice_fst (branches : List Branch) (otherwise : Option (List Node))
    (location : Location) (s : Scope) :
    (render (choice branches otherwise location) s).1 =
      ((renderBranches? branches s).map Prod.fst).getD (renderOtherwise otherwise s).1 := by
  rw [render]
  split
  · next taken htaken => rw [htaken, Option.map_some, Option.getD_some]
  · next hnone => rw [hnone, Option.map_none, Option.getD_none]

end Node

end PageTemplate
