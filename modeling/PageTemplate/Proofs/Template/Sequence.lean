import PageTemplate.Proofs.Render.Restored
import PageTemplate.Proofs.Template.Adding

/-!
# Templates one after the other

Tokens that leave no part open cannot be seen by the tokens after them. These are read as they would
be read alone: a closing tag or a tag for a branch among them finds none of the earlier parts open.
And since every node leaves the scope as it was, the pages of the two templates stand one after the
other as well.

## Main definitions

* `PageTemplate.Builder.after` — a tree read so far, with further nodes before its own.

## Main statements

* `PageTemplate.Builder.foldl_read_after` — tokens are read in the same way after any nodes.
* `PageTemplate.Template.ofTokens_append` — the nodes and the page of a sequence of tokens are those
  of its two parts.
-/

namespace PageTemplate

namespace Builder

variable (before : List Node) (b : Builder)

/-- The tree with further nodes before all of its own. -/
def after : Builder := ⟨before ++ b.root, b.frames⟩

theorem after_eq_onto : b.after before = b.onto ⟨before, []⟩ := by
  rw [onto, foldl_push_root, List.append_nil]
  rfl

/-- Where no part is left open, no token can reach one. -/
theorem foldl_read_after (tokens : List Token) :
    tokens.foldl read (b.after before) = (tokens.foldl read b).after before := by
  rw [after_eq_onto, after_eq_onto]
  exact foldl_read_onto fun _ _ _ _ _ => rfl

theorem finish_after : (b.after before).finish = before ++ b.finish := by
  rw [finish, finish, after, List.append_assoc]

variable {b} in
/-- Of a tree without open parts there is nothing but its nodes. -/
theorem eq_after_finish (h : b.frames = []) : b = Builder.empty.after b.finish := by
  obtain ⟨root, frames⟩ := b
  cases h
  simp [after, empty, finish]

end Builder

namespace Template

/-- **Templates are read and rendered one after the other.** If the tokens of a first part leave no
part open, the nodes of the whole are the nodes of the first part followed by those of the second,
which is read as if it stood alone; and so is the page of the whole, for all globals and data. -/
theorem ofTokens_append (front back : List Token)
    (h : (front.foldl Builder.read .empty).frames = []) :
    (ofTokens (front ++ back)).nodes = (ofTokens front).nodes ++ (ofTokens back).nodes ∧
      ∀ (globals : Entries Value) (data : Value),
        (ofTokens (front ++ back)).render globals data =
          (ofTokens front).render globals data ++ (ofTokens back).render globals data := by
  have hnodes : (ofTokens (front ++ back)).nodes =
      (ofTokens front).nodes ++ (ofTokens back).nodes := by
    rw [ofTokens, List.foldl_append, Builder.eq_after_finish h, Builder.foldl_read_after,
      Builder.finish_after]
    rfl
  refine ⟨hnodes, fun globals data => ?_⟩
  rw [render, hnodes, Node.renderAll_append_fst]
  rfl

/-- Rows of a loop, before tags that would close the loop, go on with it or use its item. -/
theorem ofTokens_append_rows :
    let front := Token.tokenize
      "\x7b%endif%\x7d\x7b% for t in ts %\x7d\x7b%else%\x7d\x7b\x7b t.a \x7d\x7d\x7b% endfor %\x7d"
    let back := Token.tokenize
      "\x7b% endfor %\x7d\x7b% elseif t %\x7d[\x7b\x7b t.a \x7d\x7d]\x7b% if t %\x7d"
    let data : Value :=
      .object [("ts", .array [.object [("a", .string "x")], .object [("a", .string "y")]])]
    (front.foldl Builder.read .empty).frames = [] ∧
      (ofTokens front).render [] data = "xy" ∧
      (ofTokens back).render [] data = "[\x7b\x7b t.a \x7d\x7d]" ∧
      (ofTokens (front ++ back)).render [] data = "xy[\x7b\x7b t.a \x7d\x7d]" := by
  intro front back data
  have h : (front.foldl Builder.read .empty).frames = [] :=
    List.isEmpty_iff.mp (by decide +kernel)
  have hfront : (ofTokens front).render [] data = "xy" := by decide +kernel
  have hback : (ofTokens back).render [] data = "[\x7b\x7b t.a \x7d\x7d]" := by decide +kernel
  refine ⟨h, hfront, hback, ?_⟩
  rw [(ofTokens_append front back h).2, hfront, hback]
  rfl

end Template

end PageTemplate
