import PageTemplate.Proofs.Render.Restored

/-!
# The scope at every moment of rendering

Rendering hands one scope on from node to node; loops put items into it and take them away again.
To see the scope in between, rendering is told once more with a record of its moments: each node
that is about to be rendered, and each iteration that has ended and whose item is about to be taken
away. The record changes nothing in what is rendered. It also says which iterations have begun and
not ended at the moment; these are handed down the tree and never read from the scope. At every
moment the items in the scope are those from before and one for each of these iterations, so there
is always an item to take away.

## Main definitions

* `PageTemplate.Moment` — a moment of rendering, with the iterations around it and the scope.
* `PageTemplate.Node.trace`, `PageTemplate.Node.traceAll` — rendering with a record of its moments.
* `PageTemplate.Scope.within` — a scope with the items of further iterations.

## Main statements

* `PageTemplate.Node.trace_snd`, `PageTemplate.Node.traceAll_snd` — the record changes nothing.
* `PageTemplate.Node.keepsTo_traceAll` — the scope at every moment.
* `PageTemplate.Node.renderAll_restores` — rendering restores the items that it found.
-/

namespace PageTemplate

/-- The scope within the iterations of further loops, the innermost first. -/
def Scope.within (s : Scope) (loops : List (Text × Value)) : Scope :=
  { s with items := loops ++ s.items }

/-- A moment of rendering, with the iterations around it that have begun and not ended, the
innermost first, and the scope: a node is about to be rendered, or the innermost iteration has ended
and its item is about to be taken away. -/
inductive Moment where
  | visit (node : Node) (loops : List (Text × Value)) (scope : Scope)
  | leave (loops : List (Text × Value)) (scope : Scope)

namespace Moment

/-- The iterations around the moment. -/
def loops : Moment → List (Text × Value)
  | visit _ loops _ => loops
  | leave loops _ => loops

/-- The scope at the moment. -/
def scope : Moment → Scope
  | visit _ _ scope => scope
  | leave _ scope => scope

/-- The scope at the moment is the scope `s` with one item for each iteration around the moment, and
an iteration that ends is one of these. -/
structure KeepsTo (s : Scope) (m : Moment) : Prop where
  scope_eq : m.scope = s.within m.loops
  exists_item : ∀ loops scope, m = .leave loops scope →
    ∃ name item around, loops = (name, item) :: around

end Moment

/-! ### Rendering with a record of its moments -/

namespace Render

/-- The moments and the texts of a body, one iteration for each item; the body is given the
iterations around it. -/
def traceEach (loops : List (Text × Value)) (name : Text)
    (body : List (Text × Value) → Scope → List Moment × Text × Scope) :
    List Value → Scope → List Moment × Text × Scope
  | [], s => ([], [], s)
  | item :: items, s =>
    let (during, front, s) := body ((name, item) :: loops) (s.push name item)
    let (after, back, s') := traceEach loops name body items s.pop
    (during ++ .leave ((name, item) :: loops) s :: after, front ++ back, s')

end Render

namespace Node

mutual

/-- The moments of a node, its text, and the scope after it. -/
def trace : Node → List (Text × Value) → Scope → List Moment × Text × Scope
  | text content _, _, s => ([], content, s)
  | output source expression _, _, s => ([], Render.outputText s source expression, s)
  | inherit _ _, _, s => ([], [], s)
  | block _ body _, loops, s => traceAll body loops s
  | loop item collection body _, loops, s =>
    match s.resolve? collection.segments with
    | some (.array items) => Render.traceEach loops item (traceAll body) items s
    | _ => ([], [], s)
  | choice branches otherwise _, loops, s =>
    match traceBranches? branches loops s with
    | some taken => taken
    | none => traceOtherwise otherwise loops s
  | inert _ _, _, s => ([], [], s)

/-- The moments of nodes in order, their text, and the scope after them. -/
def traceAll : List Node → List (Text × Value) → Scope → List Moment × Text × Scope
  | [], _, s => ([], [], s)
  | node :: nodes, loops, s =>
    let (during, front, s') := trace node loops s
    let (after, back, s'') := traceAll nodes loops s'
    (.visit node loops s :: during ++ after, front ++ back, s'')

/-- The moments of the first branch whose condition holds. -/
def traceBranches? :
    List Branch → List (Text × Value) → Scope → Option (List Moment × Text × Scope)
  | [], _, _ => none
  | branch :: branches, loops, s =>
    if branch.condition.holds s then some (traceBranch branch loops s)
    else traceBranches? branches loops s

/-- The moments of a branch. -/
def traceBranch : Branch → List (Text × Value) → Scope → List Moment × Text × Scope
  | .mk _ body _, loops, s => traceAll body loops s

/-- The moments of the last branch of a choice, if it has one. -/
def traceOtherwise :
    Option (List Node) → List (Text × Value) → Scope → List Moment × Text × Scope
  | none, _, s => ([], [], s)
  | some body, loops, s => traceAll body loops s

end

end Node

/-! ### The record changes nothing -/

namespace Render

theorem traceEach_snd (loops : List (Text × Value)) (name : Text)
    {body : List (Text × Value) → Scope → List Moment × Text × Scope}
    {plain : Scope → Text × Scope} (hbody : ∀ loops s, (body loops s).2 = plain s) :
    (items : List Value) → (s : Scope) →
      (traceEach loops name body items s).2 = each name plain items s
  | [], _ => rfl
  | item :: items, s => by
    simp only [traceEach, each, ← hbody ((name, item) :: loops)]
    rw [← traceEach_snd loops name hbody items]

end Render

namespace Node

mutual

theorem trace_snd : (node : Node) → (loops : List (Text × Value)) → (s : Scope) →
    (trace node loops s).2 = render node s
  | text _ _, _, _ => rfl
  | output _ _ _, _, _ => rfl
  | inherit _ _, _, _ => rfl
  | block _ body _, loops, s => traceAll_snd body loops s
  | loop item collection body _, loops, s => by
    rw [trace, render]
    cases s.resolve? collection.segments with
    | none => rfl
    | some v =>
      cases v with
      | array items => exact Render.traceEach_snd loops item (traceAll_snd body) items s
      | _ => rfl
  | choice branches otherwise _, loops, s => by
    rw [trace, render, ← traceBranches?_snd branches loops s,
      ← traceOtherwise_snd otherwise loops s]
    cases traceBranches? branches loops s <;> rfl
  | inert _ _, _, _ => rfl

/-- Rendering nodes with a record gives their text and the scope after them. -/
theorem traceAll_snd : (nodes : List Node) → (loops : List (Text × Value)) → (s : Scope) →
    (traceAll nodes loops s).2 = renderAll nodes s
  | [], _, _ => rfl
  | node :: nodes, loops, s => by
    simp only [traceAll, renderAll]
    rw [← trace_snd node loops s, ← traceAll_snd nodes loops]

theorem traceBranches?_snd : (branches : List Branch) → (loops : List (Text × Value)) →
    (s : Scope) → (traceBranches? branches loops s).map Prod.snd = renderBranches? branches s
  | [], _, _ => rfl
  | branch :: branches, loops, s => by
    rw [traceBranches?, renderBranches?]
    split
    · rw [Option.map_some, traceBranch_snd branch loops s]
    · exact traceBranches?_snd branches loops s

theorem traceBranch_snd : (branch : Branch) → (loops : List (Text × Value)) → (s : Scope) →
    (traceBranch branch loops s).2 = renderBranch branch s
  | .mk _ body _, loops, s => traceAll_snd body loops s

theorem traceOtherwise_snd : (otherwise : Option (List Node)) → (loops : List (Text × Value)) →
    (s : Scope) → (traceOtherwise otherwise loops s).2 = renderOtherwise otherwise s
  | none, _, _ => rfl
  | some body, loops, s => traceAll_snd body loops s

end

end Node

/-! ### The scope at every moment -/

namespace Render

/-- If the body keeps to a scope in every iteration and leaves the scope as it was, so does the
loop. -/
theorem keepsTo_traceEach {s : Scope} {loops : List (Text × Value)} {name : Text}
    {body : List (Text × Value) → Scope → List Moment × Text × Scope}
    (hkeeps : ∀ loops, ∀ m ∈ (body loops (s.within loops)).1, m.KeepsTo s)
    (hrestores : ∀ loops s, (body loops s).2.2 = s) :
    (items : List Value) → ∀ m ∈ (traceEach loops name body items (s.within loops)).1, m.KeepsTo s
  | [], _, hm => by simp [traceEach] at hm
  | item :: items, m, hm => by
    simp only [traceEach, hrestores, Scope.pop_push, List.mem_append, List.mem_cons] at hm
    rcases hm with hduring | rfl | hafter
    · exact hkeeps ((name, item) :: loops) m hduring
    · exact ⟨rfl, fun _ _ h => by cases h; exact ⟨name, item, loops, rfl⟩⟩
    · exact keepsTo_traceEach hkeeps hrestores items m hafter

end Render

namespace Node

variable {s : Scope}

mutual

theorem keepsTo_trace : (node : Node) → (loops : List (Text × Value)) →
    ∀ m ∈ (trace node loops (s.within loops)).1, m.KeepsTo s
  | text _ _, _, _, hm => by simp [trace] at hm
  | output _ _ _, _, _, hm => by simp [trace] at hm
  | inherit _ _, _, _, hm => by simp [trace] at hm
  | block _ body _, loops, m, hm => keepsTo_traceAll body loops m hm
  | loop item collection body _, loops, m, hm => by
    have hrestores : ∀ loops s, (traceAll body loops s).2.2 = s := fun loops s => by
      rw [traceAll_snd, renderAll_snd]
    rw [trace] at hm
    split at hm
    · exact Render.keepsTo_traceEach (keepsTo_traceAll body) hrestores _ m hm
    · simp at hm
  | choice branches otherwise _, loops, m, hm => by
    rw [trace] at hm
    split at hm
    · next taken htaken => exact keepsTo_traceBranches? branches loops taken htaken m hm
    · exact keepsTo_traceOtherwise otherwise loops m hm
  | inert _ _, _, _, hm => by simp [trace] at hm

/-- Nodes that are rendered within iterations keep to the scope around them all. -/
theorem keepsTo_traceAll : (nodes : List Node) → (loops : List (Text × Value)) →
    ∀ m ∈ (traceAll nodes loops (s.within loops)).1, m.KeepsTo s
  | [], _, _, hm => by simp [traceAll] at hm
  | node :: nodes, loops, m, hm => by
    -- the node hands on the scope in which it has begun
    have hrestores : (trace node loops (s.within loops)).2.2 = s.within loops := by
      rw [trace_snd, render_snd]
    simp only [traceAll, hrestores, List.cons_append, List.mem_cons, List.mem_append] at hm
    rcases hm with rfl | hduring | hafter
    · exact ⟨rfl, fun _ _ h => by cases h⟩
    · exact keepsTo_trace node loops m hduring
    · exact keepsTo_traceAll nodes loops m hafter

theorem keepsTo_traceBranches? : (branches : List Branch) → (loops : List (Text × Value)) →
    (taken : List Moment × Text × Scope) →
      traceBranches? branches loops (s.within loops) = some taken → ∀ m ∈ taken.1, m.KeepsTo s
  | [], _, _, htaken => by simp [traceBranches?] at htaken
  | branch :: branches, loops, taken, htaken => by
    rw [traceBranches?] at htaken
    split at htaken
    · rw [← Option.some.inj htaken]
      exact keepsTo_traceBranch branch loops
    · exact keepsTo_traceBranches? branches loops taken htaken

theorem keepsTo_traceBranch : (branch : Branch) → (loops : List (Text × Value)) →
    ∀ m ∈ (traceBranch branch loops (s.within loops)).1, m.KeepsTo s
  | .mk _ body _, loops => keepsTo_traceAll body loops

theorem keepsTo_traceOtherwise : (otherwise : Option (List Node)) →
    (loops : List (Text × Value)) →
      ∀ m ∈ (traceOtherwise otherwise loops (s.within loops)).1, m.KeepsTo s
  | none, _, _, hm => by simp [traceOtherwise] at hm
  | some body, loops, m, hm => keepsTo_traceAll body loops m hm

end

/-- **Rendering restores the items that it found.** After any nodes the scope is the one before
them, with the same items in the same order, the same globals and the same data. At every moment in
between it is that scope with exactly one more item for each iteration that has begun and not ended,
so an item that is taken away at the end of an iteration is always there. -/
theorem renderAll_restores (nodes : List Node) (s : Scope) :
    (renderAll nodes s).2 = s ∧
    (traceAll nodes [] s).2 = renderAll nodes s ∧
    ∀ m ∈ (traceAll nodes [] s).1,
      m.scope = s.within m.loops ∧
      ∀ loops scope, m = .leave loops scope →
        ∃ name item around, loops = (name, item) :: around ∧
          scope.items = (name, item) :: (around ++ s.items) := by
  refine ⟨renderAll_snd nodes s, traceAll_snd nodes [] s, fun m hm => ?_⟩
  obtain ⟨hscope, hitem⟩ := keepsTo_traceAll nodes [] m hm
  refine ⟨hscope, fun loops scope hleave => ?_⟩
  obtain ⟨name, item, around, rfl⟩ := hitem loops scope hleave
  subst hleave
  exact ⟨name, item, around, rfl, congrArg Scope.items hscope⟩

/-- Rows with cells, in a scope that has an item already; the inner loop binds its name once more.
The moment is the end of the second cell. -/
theorem renderAll_restores_cells :
    let row : Value := .object [("cells", .array [.int 1, .int 2])]
    let cell : Node := .output [] (some ⟨⟨["t", "name"], .start⟩, []⟩) .start
    let inner : Node := .loop "t" ⟨["r", "cells"], .start⟩ [cell] .start
    let outer : Node := .loop "r" ⟨["t", "rows"], .start⟩ [inner] .start
    let s : Scope := ⟨[], [], [("t", .object [("rows", .array [row])])]⟩
    let around : List (Text × Value) := [("t", .int 2), ("r", row)]
    (traceAll [outer] [] s).1.map (fun m => m.loops.length) = [0, 1, 2, 2, 2, 2, 1] ∧
    .leave around (s.within around) ∈ (traceAll [outer] [] s).1 ∧
    (renderAll [outer] s).2 = s ∧
    ∃ name item loops, around = (name, item) :: loops ∧
      (s.within around).items = (name, item) :: (loops ++ s.items) := by
  intro row cell inner outer s around
  have hmem : .leave around (s.within around) ∈ (traceAll [outer] [] s).1 :=
    List.mem_of_getElem? (i := 5) rfl
  obtain ⟨hafter, -, hmoments⟩ := renderAll_restores [outer] s
  exact ⟨rfl, hmem, hafter, (hmoments _ hmem).2 _ _ rfl⟩

end Node

end PageTemplate
