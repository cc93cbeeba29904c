import PageTemplate.Proofs.Escape.Escaped
import PageTemplate.Proofs.Filter.Flags
import PageTemplate.Proofs.Node.Preorder
import PageTemplate.Render

/-!
# What a page is composed of

A page whose outputs do without the filter `raw` is composed of the texts of the template, of the
sources of its outputs, and of escaped texts. So no data brings markup into the page.

## Main definitions

* `PageTemplate.Text.IsComposed` — a text put together from texts with a property.
* `PageTemplate.Render.IsFragment` — a given text or an escaped text.
* `PageTemplate.Node.IsVerbatim` — the texts and sources of outputs of a tree.

## Main statements

* `PageTemplate.Chain.isEscaped_apply` — without `raw`, every way in which filters make a text ends
  with its escaping.
* `PageTemplate.Node.isComposed_renderAll` — the text of nodes is composed of fragments, in any
  scope.
* `PageTemplate.Template.isComposed_render_of_no_raw` — so is a page.
-/

namespace PageTemplate

/-! ### Composed texts -/

namespace Text

/-- The text is a concatenation of texts with the property `P`. -/
def IsComposed (P : Text → Prop) (s : Text) : Prop :=
  ∃ fragments : List Text, s = fragments.flatten ∧ ∀ fragment ∈ fragments, P fragment

variable {P : Text → Prop} {s t : Text}

theorem isComposed_nil : IsComposed P [] :=
  ⟨[], rfl, by simp⟩

theorem isComposed_of (hs : P s) : IsComposed P s :=
  ⟨[s], by simp, by simpa using hs⟩

theorem IsComposed.append (hs : IsComposed P s) (ht : IsComposed P t) : IsComposed P (s ++ t) := by
  obtain ⟨front, rfl, hfront⟩ := hs
  obtain ⟨back, rfl, hback⟩ := ht
  refine ⟨front ++ back, by simp, fun fragment h => ?_⟩
  rcases List.mem_append.mp h with h | h
  · exact hfront fragment h
  · exact hback fragment h

end Text

/-! ### Filters without `raw` -/

namespace Chain

theorem isEscaped_finish {chain : Chain} (h : chain.raw = false) (text : Text) :
    Escape.IsEscaped (chain.finish text) := by
  rw [finish, h]
  exact Escape.isEscaped_escape text

theorem isEscaped_apply {chain : Chain} (h : chain.raw = false) (value : Option Value) :
    Escape.IsEscaped (chain.apply value) := by
  simp only [apply, h]
  split
  · exact isEscaped_finish h _
  · exact isEscaped_finish h _

end Chain

/-! ### Outputs -/

namespace Render

/-- An output without `raw` keeps its source or has an escaped text. -/
theorem outputText_eq_or_isEscaped (s : Scope) (source : Text) (expression : Option Expression)
    (hraw : ∀ e, expression = some e → e.hasFilter "raw" = false) :
    outputText s source expression = source ∨
      Escape.IsEscaped (outputText s source expression) := by
  cases expression with
  | none => exact Or.inl rfl
  | some e =>
    have hchain : (Chain.ofFilters e.filters).raw = false := by
      rw [Chain.isFlag_raw.ofFilters]
      exact hraw e rfl
    simp only [outputText, expressionText]
    split
    · exact Or.inr (Chain.isEscaped_apply hchain _)
    · split
      · split
        · exact Or.inl rfl
        · exact Or.inr (Chain.isEscaped_apply hchain _)
      · split
        · exact Or.inl rfl
        · exact Or.inr (Chain.isEscaped_apply hchain _)

/-- The iterations of a loop are composed as its body is, whatever the scope. -/
theorem isComposed_each {P : Text → Prop} (name : Text) {body : Scope → Text × Scope}
    (hbody : ∀ s, Text.IsComposed P (body s).1) : (items : List Value) → (s : Scope) →
      Text.IsComposed P (each name body items s).1
  | [], _ => Text.isComposed_nil
  | item :: items, s =>
    (hbody (s.push name item)).append (isComposed_each name hbody items _)

end Render

/-! ### Nodes -/

namespace Render

/-- A text with the property `P`, or an escaped text. -/
def IsFragment (P : Text → Prop) (s : Text) : Prop :=
  P s ∨ Escape.IsEscaped s

end Render

namespace Node

/-- The text of a node, or the source of an output, has the property `P`, and the output does
without `raw`. -/
def Admits (P : Text → Prop) : Node → Prop
  | text content _ => P content
  | output source expression _ =>
    P source ∧ ∀ e, expression = some e → e.hasFilter "raw" = false
  | _ => True

variable {P : Text → Prop}

mutual

theorem isComposed_render : (node : Node) → (∀ n ∈ preorder node, n.Admits P) → (s : Scope) →
    Text.IsComposed (Render.IsFragment P) (render node s).1
  | text content location, h, _ =>
    Text.isComposed_of (Or.inl (h (text content location) (by simp [preorder])))
  | output source expression location, h, s => by
    obtain ⟨hsource, hraw⟩ := h (output source expression location) (by simp [preorder])
    refine Text.isComposed_of ?_
    rcases Render.outputText_eq_or_isEscaped s source expression hraw with heq | hescaped
    · rw [render, heq]
      exact Or.inl hsource
    · exact Or.inr hescaped
  | inherit _ _, _, _ => Text.isComposed_nil
  | block _ body _, h, s => isComposed_renderAll body (List.forall_mem_cons.mp h).2 s
  | loop item collection body _, h, s => by
    have hbody := isComposed_renderAll body (List.forall_mem_cons.mp h).2
    rw [render]
    split
    · exact Render.isComposed_each item hbody _ s
    · exact Text.isComposed_nil
  | choice branches otherwise _, h, s => by
    obtain ⟨hbranches, hotherwise⟩ := List.forall_mem_append.mp (List.forall_mem_cons.mp h).2
    rw [render]
    split
    · next taken htaken => exact isComposed_renderBranches? branches hbranches s taken htaken
    · exact isComposed_renderOtherwise otherwise hotherwise s
  | inert _ _, _, _ => Text.isComposed_nil

theorem isComposed_renderAll : (nodes : List Node) → (∀ n ∈ preorderAll nodes, n.Admits P) →
    (s : Scope) → Text.IsComposed (Render.IsFragment P) (renderAll nodes s).1
  | [], _, _ => Text.isComposed_nil
  | node :: nodes, h, s => by
    obtain ⟨hnode, hnodes⟩ := List.forall_mem_append.mp h
    rw [renderAll]
    exact (isComposed_render node hnode s).append (isComposed_renderAll nodes hnodes _)

theorem isComposed_renderBranches? : (branches : List Branch) →
    (∀ n ∈ preorderBranches branches, n.Admits P) → (s : Scope) → (taken : Text × Scope) →
      renderBranches? branches s = some taken →
        Text.IsComposed (Render.IsFragment P) taken.1
  | [], _, _, _, htaken => by simp [renderBranches?] at htaken
  | branch :: branches, h, s, taken, htaken => by
    obtain ⟨hbranch, hbranches⟩ := List.forall_mem_append.mp h
    rw [renderBranches?] at htaken
    split at htaken
    · rw [← Option.some.inj htaken]
      exact isComposed_renderBranch branch hbranch s
    · exact isComposed_renderBranches? branches hbranches s taken htaken

theorem isComposed_renderBranch : (branch : Branch) →
    (∀ n ∈ preorderBranch branch, n.Admits P) → (s : Scope) →
      Text.IsComposed (Render.IsFragment P) (renderBranch branch s).1
  | .mk _ body _, h, s => isComposed_renderAll body h s

theorem isComposed_renderOtherwise : (otherwise : Option (List Node)) →
    (∀ n ∈ preorderOtherwise otherwise, n.Admits P) → (s : Scope) →
      Text.IsComposed (Render.IsFragment P) (renderOtherwise otherwise s).1
  | none, _, _ => Text.isComposed_nil
  | some body, h, s => isComposed_renderAll body h s

end

/-- The text stands in the tree as it is, or it is the source of an output of the tree. -/
def IsVerbatim (nodes : List Node) (s : Text) : Prop :=
  (∃ location, text s location ∈ preorderAll nodes) ∨
    ∃ expression location, output s expression location ∈ preorderAll nodes

end Node

/-! ### Pages -/

namespace Template

/-- **No data brings markup into a page.** If no output of a template has the filter `raw`, its
page is composed of texts of the template, sources of its outputs, and escaped texts, whatever the
globals and the data. -/
theorem isComposed_render_of_no_raw (t : Template)
    (hraw : ∀ source e location, Node.output source (some e) location ∈ Node.preorderAll t.nodes →
      e.hasFilter "raw" = false)
    (globals : Entries Value) (data : Value) :
    Text.IsComposed (Render.IsFragment (Node.IsVerbatim t.nodes)) (t.render globals data) := by
  refine Node.isComposed_renderAll t.nodes (fun n hn => ?_) _
  cases n with
  | text content location => exact Or.inl ⟨location, hn⟩
  | output source expression location =>
    refine ⟨Or.inr ⟨expression, location, hn⟩, fun e he => ?_⟩
    subst he
    exact hraw source e location hn
  | _ => trivial

/-- A loop over items with markup in their fields. -/
theorem isComposed_render_of_no_raw_loop :
    let item : Expression := ⟨⟨["t", "name"], .start⟩, [⟨"upper", []⟩, ⟨"slice", ["0", "4"]⟩]⟩
    let t : Template := ⟨[.loop "t" ⟨["ts"], .start⟩
      [.text "<li>" .start,
        .output "\x7b\x7b t.name | upper | slice(0, 4) \x7d\x7d" (some item) .start]
      .start], .start⟩
    let data : Value := .object [("ts", .array [.object [("name", .string "<b>&amp;")]])]
    (∀ source e location, Node.output source (some e) location ∈ Node.preorderAll t.nodes →
      e.hasFilter "raw" = false) ∧
    t.render [] data = "<li>&lt;B&gt;&amp;" ∧
    Text.IsComposed (Render.IsFragment (Node.IsVerbatim t.nodes)) (t.render [] data) := by
  intro item t data
  have hraw : ∀ source e location,
      Node.output source (some e) location ∈ Node.preorderAll t.nodes →
        e.hasFilter "raw" = false := by
    intro source e location h
    have he : e = item := by
      simp only [t, Node.preorderAll, Node.preorder, List.append_nil, List.mem_cons,
        List.cons_append, List.nil_append, reduceCtorEq, Node.output.injEq, Option.some.injEq,
        List.not_mem_nil, false_or, or_false] at h
      exact h.2.1
    rw [he]
    decide
  exact ⟨hraw, by decide +kernel, isComposed_render_of_no_raw t hraw [] data⟩

end Template

end PageTemplate
