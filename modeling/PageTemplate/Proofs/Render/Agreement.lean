import PageTemplate.Proofs.Entries.Overlay
import PageTemplate.Proofs.Render.Likeness

/-!
# Pages and what their names mean

A page sees the globals and the data only through what the names in its tags mean outside all
loops. Two scopes with the same loop items, in which these names mean the same, give the same text.
So globals may as well be put under the data: nothing tells the two layers apart.

## Main definitions

* `PageTemplate.Scope.AgreesOn` — two scopes in which certain names mean the same.
* `PageTemplate.Node.heads` — the names that a node looks up.
* `PageTemplate.Value.over` — globals with the data of a page put over them.

## Main statements

* `PageTemplate.Node.renderAll_congr` — scopes that agree on the names of nodes give them one text.
* `PageTemplate.Template.render_eq_of_topLevel?_eq` — globals and data count for a page only through
  the names that it mentions.
* `PageTemplate.Template.render_eq_render_over` — a page from globals and data is the page from one
  object that holds both.
-/

namespace PageTemplate

/-! ### Scopes that agree -/

namespace Scope

/-- The scopes have the same loop items, and every name with the property `P` means the same in both
when loop items are left out. -/
structure AgreesOn (P : Text → Prop) (s s' : Scope) : Prop where
  items : s.items = s'.items
  topLevel : ∀ name, P name → s.topLevel? name = s'.topLevel? name

/-- One more loop item leaves two scopes in agreement. -/
theorem AgreesOn.push {P : Text → Prop} {s s' : Scope} (h : s.AgreesOn P s') (name : Text)
    (item : Value) : (s.push name item).AgreesOn P (s'.push name item) where
  items := congrArg ((name, item) :: ·) h.items
  topLevel := h.topLevel

/-- Scopes that agree on names are alike up to equality. -/
theorem AgreesOn.alike {P : Text → Prop} {s s' : Scope} (h : s.AgreesOn P s') :
    s.Alike Eq P P s' where
  lookup name hname := by
    rw [lookup?, lookup?, h.items, h.topLevel name hname]
    exact optionRel_refl Eq.refl _
  isLoopName name _ := by rw [isLoopName, isLoopName, h.items]
  topLevel name hname := by
    rw [h.topLevel name hname]
    exact optionRel_refl Eq.refl _

end Scope

/-! ### Nodes in scopes that agree -/

namespace Node

/-- The names that the node itself looks up: the head of the path of an output, of a collection, and
of the condition of each branch. -/
def heads : Node → List Text
  | output _ (some e) _ => [e.path.head]
  | loop _ collection _ _ => [collection.head]
  | choice branches _ _ => branches.map fun branch => branch.condition.path.head
  | _ => []

theorem respects_eq_of_heads {P : Text → Prop} (node : Node) (h : ∀ name ∈ node.heads, P name) :
    node.Respects Eq P P := by
  cases node with
  | output source expression location =>
    cases expression with
    | none => trivial
    | some e =>
      have hhead : P e.path.head := h _ (by simp [heads])
      exact ⟨Chain.respects_eq _, fun _ => hhead, fun _ => hhead⟩
  | loop item collection body location => exact h _ (by simp [heads])
  | choice branches otherwise location =>
    exact fun branch hbranch => h _ (List.mem_map_of_mem hbranch)
  | _ => trivial

/-- **A page sees only what its names mean.** If the names that nodes look up mean the same in two
scopes with the same loop items, the nodes have the same text in both. -/
theorem renderAll_congr {P : Text → Prop} (nodes : List Node)
    (h : ∀ n ∈ preorderAll nodes, ∀ name ∈ n.heads, P name) {s s' : Scope}
    (hs : s.AgreesOn P s') : (renderAll nodes s).1 = (renderAll nodes s').1 :=
  renderAll_alike Value.isLikeness_eq nodes
    (fun n hn => n.respects_eq_of_heads (h n hn)) hs.alike

end Node

/-! ### Names that are not looked up -/

namespace Template

/-- **What a page does not mention cannot change it.** Whatever else globals and data hold, a page
is the same for all of them in which the names that its outputs, conditions and collections begin
with mean the same. -/
theorem render_eq_of_topLevel?_eq (t : Template) {globals globals' : Entries Value}
    {data data' : Value}
    (h : ∀ n ∈ Node.preorderAll t.nodes, ∀ name ∈ n.heads,
      (Scope.ofData globals data).topLevel? name = (Scope.ofData globals' data').topLevel? name) :
    t.render globals data = t.render globals' data' := by
  have hagree : (Scope.ofData globals data).AgreesOn
      (fun name => (Scope.ofData globals data).topLevel? name =
        (Scope.ofData globals' data').topLevel? name) (Scope.ofData globals' data') :=
    ⟨rfl, fun _ hname => hname⟩
  exact Node.renderAll_congr t.nodes h hagree

/-- A board of tickets for two users. Name and address of the second one are not mentioned, and the
title of the board has moved from the data to the globals. -/
theorem render_eq_of_topLevel?_eq_board :
    let t : Template := ⟨[.output [] (some ⟨⟨["title"], .start⟩, []⟩) .start,
      .loop "t" ⟨["board", "tickets"], .start⟩
        [.choice [.mk (.equals ⟨["t", "state"], .start⟩ "open")
          [.output [] (some ⟨⟨["t", "name"], .start⟩, [⟨"upper", []⟩]⟩) .start] .start]
          (some [.text "-" .start]) .start] .start], .start⟩
    let board : Value := .object [("tickets", .array
      [.object [("name", .string "a&b"), ("state", .string "open")], .object []])]
    let data : Value := .object [("title", .string "My "), ("board", board)]
    let globals' : Entries Value := [("title", .string "My "), ("state", .string "closed")]
    let data' : Value := .object [("board", board), ("user", .object [("name", .string "Al")])]
    (∀ n ∈ Node.preorderAll t.nodes, ∀ name ∈ n.heads,
      (Scope.ofData [] data).topLevel? name = (Scope.ofData globals' data').topLevel? name) ∧
    t.render [] data = "My A&amp;B-" ∧
    t.render [] data = t.render globals' data' := by
  intro t board data globals' data'
  have hheads : ∀ n ∈ Node.preorderAll t.nodes, ∀ name ∈ n.heads,
      name ∈ ([("title" : String).toList, ("board" : String).toList, ("t" : String).toList] :
        List Text) := by decide
  have h : ∀ n ∈ Node.preorderAll t.nodes, ∀ name ∈ n.heads,
      (Scope.ofData [] data).topLevel? name = (Scope.ofData globals' data').topLevel? name := by
    intro n hn name hname
    simp only [List.mem_cons, List.not_mem_nil, or_false] at hheads
    rcases hheads n hn name hname with rfl | rfl | rfl <;>
      simp [Scope.topLevel?, Scope.ofData, Value.entries, Entries.get?_cons, data, globals', data']
  exact ⟨h, by decide +kernel, render_eq_of_topLevel?_eq t h⟩

end Template

/-! ### Globals under data -/

/-- Globals with the data of a page put over them, as one object. Data other than an object puts
nothing over them. -/
def Value.over (globals : Entries Value) : Value → Value
  | .object entries => .object (globals.overlay entries)
  | _ => .object globals

theorem Value.entries_over (globals : Entries Value) (data : Value) :
    (data.over globals).entries = globals.overlay data.entries := by
  cases data <;> simp [Value.over, entries]

/-- Names mean the same with globals in a layer of their own and with globals under the data. -/
theorem Scope.agreesOn_over (globals : Entries Value) (data : Value)
    (items : List (Text × Value)) :
    AgreesOn (fun _ => True) ⟨globals, data.entries, items⟩
      ⟨[], (data.over globals).entries, items⟩ where
  items := rfl
  topLevel name _ := by
    rw [topLevel?, topLevel?, Value.entries_over, Entries.get?_overlay, Entries.get?_nil,
      Option.or_none]

namespace Template

/-- **Looking names up in layers is looking them up in one object.** A page from globals and data is
the page without globals from the globals with the data put over them, and the same holds of nodes
within loops, whatever names the loops bind. -/
theorem render_eq_render_over (globals : Entries Value) (data : Value) :
    (∀ t : Template, t.render globals data = t.render [] (data.over globals)) ∧
      ∀ (nodes : List Node) (items : List (Text × Value)),
        (Node.renderAll nodes ⟨globals, data.entries, items⟩).1 =
          (Node.renderAll nodes ⟨[], (data.over globals).entries, items⟩).1 := by
  have hnodes : ∀ (nodes : List Node) (items : List (Text × Value)),
      (Node.renderAll nodes ⟨globals, data.entries, items⟩).1 =
        (Node.renderAll nodes ⟨[], (data.over globals).entries, items⟩).1 :=
    fun nodes items => Node.renderAll_congr nodes (fun _ _ _ _ => trivial)
      (Scope.agreesOn_over globals data items)
  exact ⟨fun t => hnodes t.nodes [], hnodes⟩

end Template

end PageTemplate
