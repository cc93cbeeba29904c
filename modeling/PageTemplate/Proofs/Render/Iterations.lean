import PageTemplate.Proofs.Render.Agreement

/-!
# The iterations of a loop

A loop over a name has the text of its body once for each item of the array that the name stands
for. Where nothing in the body looks this name up, an iteration cannot tell which items come before
it or after it. So the text of the loop is made of one piece for each item, in the order of the
items, and arrays that are joined give texts that are joined.

## Main definitions

* `PageTemplate.Scope.ofItems` — the scope of a page whose data have an array under a name.

## Main statements

* `PageTemplate.Scope.agreesOn_ofItems` — with other items, all other names mean the same.
* `PageTemplate.Node.render_loop_ofItems` — the iterations may look at any array under the name.
* `PageTemplate.Node.render_loop_append` — a loop over joined arrays.
-/

namespace PageTemplate

/-! ### An array under a name -/

namespace Scope

/-- The scope of a page, outside all loops, whose data have the items in an array under the name. -/
def ofItems (globals data : Entries Value) (name : Text) (items : List Value) : Scope :=
  ofData globals (.object (data.insert name (.array items)))

variable (globals data : Entries Value) (name : Text)

theorem resolve?_ofItems (items : List Value) :
    (ofItems globals data name items).resolve? [name] = some (.array items) := by
  simp [ofItems, ofData, resolve?, lookup?, topLevel?, Value.entries, Entries.get?_insert]

/-- Which items the array has matters to no other name. -/
theorem agreesOn_ofItems (items others : List Value) :
    (ofItems globals data name items).AgreesOn (· ≠ name) (ofItems globals data name others) where
  items := rfl
  topLevel other hother := by
    simp only [topLevel?, ofItems, ofData, Value.entries, Entries.get?_insert, if_neg hother]

end Scope

/-! ### One piece for each item -/

namespace Node

variable (globals data : Entries Value) {c : Text} (item : Text) (place : Location)
  {body : List Node} (location : Location)

/-- A body that does not look up the name of the collection has the same iterations with any other
array under this name. -/
theorem render_loop_ofItems (hbody : ∀ n ∈ preorderAll body, c ∉ n.heads)
    (items others : List Value) :
    (render (loop item ⟨[c], place⟩ body location) (Scope.ofItems globals data c items)).1 =
      items.flatMap fun value =>
        (renderAll body ((Scope.ofItems globals data c others).push item value)).1 := by
  have hheads : ∀ n ∈ preorderAll body, ∀ name ∈ n.heads, name ≠ c :=
    fun n hn name hname hc => hbody n hn (hc ▸ hname)
  have hiteration : ∀ value,
      (renderAll body ((Scope.ofItems globals data c items).push item value)).1 =
        (renderAll body ((Scope.ofItems globals data c others).push item value)).1 :=
    fun value => renderAll_congr body hheads
      ((Scope.agreesOn_ofItems globals data c items others).push item value)
  rw [render_loop_fst, Scope.resolve?_ofItems, Render.itemsOf]
  simp only [hiteration]

/-- **Loops split over their collection.** If no path in the body of a loop begins with the name of
its collection, the text for two arrays one after the other is the text for the first and then the
text for the second. The text for any array has the texts for its single items, in their order. -/
theorem render_loop_append (hbody : ∀ n ∈ preorderAll body, c ∉ n.heads) :
    let text (items : List Value) : Text :=
      (render (loop item ⟨[c], place⟩ body location) (Scope.ofItems globals data c items)).1
    (∀ xs ys, text (xs ++ ys) = text xs ++ text ys) ∧
      ∀ items, text items = items.flatMap fun value => text [value] := by
  intro text
  -- The iterations of all these loops are compared in the scope with no item at all.
  have htext : ∀ items, text items = items.flatMap fun value =>
      (renderAll body ((Scope.ofItems globals data c []).push item value)).1 :=
    fun items => render_loop_ofItems globals data item place location hbody items []
  constructor
  · intro xs ys
    rw [htext, htext, htext, List.flatMap_append]
  · intro items
    simp only [htext, List.flatMap_singleton]

/-- Tickets in which a loop over their tags binds the name of the outer loop once more. -/
theorem render_loop_append_tickets :
    let body : List Node :=
      [.choice [.mk (.truthy ⟨["t", "open"], .start⟩)
          [.output [] (some ⟨⟨["t", "name"], .start⟩, [⟨"upper", []⟩]⟩) .start] .start]
        (some [.output [] (some ⟨⟨["mark"], .start⟩, []⟩) .start]) .start,
       .loop "t" ⟨["t", "tags"], .start⟩
        [.text "#" .start, .output [] (some ⟨⟨["t", "label"], .start⟩, []⟩) .start] .start]
    let data : Entries Value := [("tickets", .null), ("mark", .string "-")]
    let text (items : List Value) : Text :=
      (render (.loop "t" ⟨["tickets"], .start⟩ body .start)
        (Scope.ofItems [] data "tickets" items)).1
    let xs : List Value :=
      [.object [("open", .bool true), ("name", .string "a&b"),
        ("tags", .array [.object [("label", .string "x")], .object [("label", .string "y")]])]]
    let ys : List Value := [.object [], .object [("open", .bool true), ("name", .string "c")]]
    (∀ n ∈ preorderAll body, ("tickets" : String).toList ∉ n.heads) ∧
    text xs = "A&amp;B#x#y" ∧ text ys = "-C" ∧
    text (xs ++ ys) = text xs ++ text ys ∧ text (ys ++ xs) = text ys ++ text xs := by
  intro body data text xs ys
  have hbody : ∀ n ∈ preorderAll body, ("tickets" : String).toList ∉ n.heads := by decide
  have hsplit := render_loop_append [] data "t" .start .start hbody
  exact ⟨hbody, by decide +kernel, by decide +kernel, hsplit.1 xs ys, hsplit.1 ys xs⟩

end Node

end PageTemplate
