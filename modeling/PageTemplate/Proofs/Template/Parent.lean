import PageTemplate.Proofs.Template.Conservation

/-!
# The first parent

A template names the parent that is named first in its tokens, wherever the tag stands among blocks,
loops and choices, and whether or not these are closed. While tokens are read, the first parent in
the preorder of the tree read so far is the first one in the tokens read so far: a tag that stays
comes last in that order, and the tags that do not stay only give another form to a part that names
no parent itself.

## Main definitions

* `PageTemplate.Token.inherit?` — the parent that a token names.

## Main statements

* `PageTemplate.Builder.findSome?_walk_read`, `PageTemplate.Builder.findSome?_walk_foldl_read` — the
  first parent after one token, and after any number of them.
* `PageTemplate.Template.parent?_ofTokens` — the parent that a template names.
-/

namespace PageTemplate

/-- The parent that a tag names, with the place of the tag; other tokens name none. -/
def Token.inherit? (t : Token) : Option (Text × Location) :=
  match t.directive? with
  | some (.inherit parent) => some (parent, t.location)
  | _ => none

theorem Node.inherit?_leaf (t : Token) : t.leaf.inherit? = t.inherit? := by
  unfold Token.leaf Token.inherit? Token.directive?
  cases t.kind with
  | text => rfl
  | output => rfl
  | tag =>
    simp only [if_true]
    cases Directive.classify t.content <;> rfl

/-- A part of a template names no parent itself. -/
theorem Node.inherit?_close (f : Frame) : f.close.inherit? = none := by
  obtain ⟨opening, source, location, nodes⟩ := f
  cases opening with
  | choice done pending => cases pending <;> rfl
  | _ => rfl

theorem Token.inherit?_of_closing {t : Token} {c : Construct} (h : t.directive? = some c.closing) :
    t.inherit? = none := by
  rw [inherit?, h]
  cases c <;> rfl

theorem Token.inherit?_of_beginsBranch {t : Token} (h : t.BeginsBranch) : t.inherit? = none := by
  rcases h with ⟨condition, hd⟩ | hd <;> rw [inherit?, hd]

namespace Builder

/-- One token can only name the parent after those named before it. -/
theorem findSome?_walk_read (b : Builder) (t : Token) :
    (b.read t).walk.findSome? Node.inherit? =
      (b.walk.findSome? Node.inherit?).or t.inherit? := by
  cases hfate : b.nesting.fate t with
  | kept =>
    rw [walk_read_of_kept hfate, List.findSome?_append, List.findSome?_singleton,
      Node.inherit?_leaf]
  | closes c =>
    obtain ⟨f, -, -, front, back, hwalk, hread⟩ := walk_read_of_closes hfate
    have hnone : t.inherit? = none :=
      Token.inherit?_of_closing (Nesting.fate_eq_closes_iff.mp hfate).1
    rw [hread, hwalk, hnone, Option.or_none, List.findSome?_append, List.findSome?_append,
      List.findSome?_cons, List.findSome?_cons, Node.inherit?_close]
    rfl
  | switches =>
    have hnone : t.inherit? = none :=
      Token.inherit?_of_beginsBranch (Nesting.fate_eq_switches_iff.mp hfate).1
    rw [walk_read_of_switches hfate, hnone, Option.or_none]

theorem findSome?_walk_foldl_read (tokens : List Token) (b : Builder) :
    (tokens.foldl read b).walk.findSome? Node.inherit? =
      (b.walk.findSome? Node.inherit?).or (tokens.findSome? Token.inherit?) := by
  induction tokens generalizing b with
  | nil => rw [List.foldl_nil, List.findSome?_nil, Option.or_none]
  | cons t tokens ih =>
    rw [List.foldl_cons, ih, findSome?_walk_read, Option.or_assoc, List.findSome?_cons]
    cases t.inherit? <;> rfl

end Builder

namespace Template

/-- **The parent of a template is the first that its tokens name.** It is the parent of the first
tag among the tokens that names one, with the place of that tag, and there is none if no tag names
one, however the blocks, loops and choices around the tags nest or stay open. -/
theorem parent?_ofTokens (tokens : List Token) :
    (ofTokens tokens).parent? = tokens.findSome? Token.inherit? := by
  have h := Builder.findSome?_walk_foldl_read tokens .empty
  rw [show Builder.empty.walk = [] from rfl, List.findSome?_nil, Option.none_or] at h
  rw [parent?, Node.parentOf?_eq_findSome?, ← h]
  rfl

/-- The first of two tags in a loop that is never closed, since the tag before the second one would
close the choice around the loop. -/
example :
    let tokens := Token.tokenize
      "\x7b%if a%\x7d\x7b%for b in c%\x7d\x7b%extends 'p'%\x7d\x7b%endif%\x7d\x7b%extends 'q'%\x7d"
    (ofTokens tokens).parent? = some (("p" : Text), ⟨1, 23, 22⟩) := by
  decide +kernel

end Template

end PageTemplate
