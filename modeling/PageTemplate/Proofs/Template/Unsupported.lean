import PageTemplate.Engine
import PageTemplate.Proofs.Inheritance.Inert
import PageTemplate.Proofs.Loader.Found
import PageTemplate.Proofs.Template.Conservation

/-!
# Tags that are not supported

A tag that is not supported becomes an inert tag wherever it stands. Taking such tags out of the
tokens is taking their inert tags out of the tree: two trees are read in step, one of them without
these tags, also in the parts that are still open. So such tags show neither on a page nor in the
parent that a template names, be they in a child or in its parent.

## Main definitions

* `PageTemplate.Token.AreUnsupported` — classes of tags that are not supported.
* `PageTemplate.Token.DifferBy`, `PageTemplate.Template.DifferBy` — tokens and templates that differ
  only by tags of a class.
* `PageTemplate.Frame.without`, `PageTemplate.Builder.without` — an open part and a tree read so
  far, with the nodes of a class taken out.

## Main statements

* `PageTemplate.Builder.read_without`, `PageTemplate.Builder.foldl_read_without` — one token, and
  any number of them, read with and without the tags of a class.
* `PageTemplate.Template.ofTokens_filter` — the template without such tags.
* `PageTemplate.Template.ofTokens_differBy` — templates and pages with and without such tags.
-/

namespace PageTemplate

/-! ### Classes of tags -/

namespace Token

/-- The class has only tags that are not supported. -/
def AreUnsupported (q : Token → Bool) : Prop :=
  ∀ t, q t = true → t.directive? = some .unsupported

/-- The tokens differ only by tokens of the class: without these they are the same. -/
def DifferBy (q : Token → Bool) (tokens tokens' : List Token) : Prop :=
  (tokens.filter fun t => !q t) = tokens'.filter fun t => !q t

end Token

/-- The templates are made of tokens that differ only by tokens of the class. -/
def Template.DifferBy (q : Token → Bool) (t t' : Template) : Prop :=
  ∃ tokens tokens', Token.DifferBy q tokens tokens' ∧ t = ofTokens tokens ∧ t' = ofTokens tokens'

/-! ### Open parts -/

namespace Frame

variable (p : Node → Bool)

/-- What an open part will be, with the nodes of the class `p` taken out of its branches. -/
def Opening.without : Opening → Opening
  | .choice done pending => .choice (Node.withoutBranches p done) pending
  | .block name => .block name
  | .loop item collection => .loop item collection

/-- The open part with the nodes of the class `p` taken out. -/
def without (f : Frame) : Frame :=
  { f with opening := f.opening.without p, nodes := Node.withoutAll p f.nodes }

variable (f : Frame)

theorem fits_without (c : Construct) : c.fits (f.without p).opening = c.fits f.opening := by
  obtain ⟨opening, source, location, nodes⟩ := f
  cases c <;> cases opening <;> rfl

theorem close_without : (f.without p).close = Node.without p f.close := by
  obtain ⟨opening, source, location, nodes⟩ := f
  cases opening with
  | block name => rfl
  | loop item collection => rfl
  | choice done pending =>
    cases pending with
    | none => rfl
    | some branch =>
      simp only [without, Opening.without, close, Node.without, Node.withoutBranches_eq_map,
        List.map_append]
      rfl

theorem nextBranch?_without (next : Option (Condition × Location)) :
    (f.without p).nextBranch? next = (f.nextBranch? next).map (without p) := by
  obtain ⟨opening, source, location, nodes⟩ := f
  cases opening with
  | block name => rfl
  | loop item collection => rfl
  | choice done pending =>
    cases pending with
    | none => rfl
    | some branch =>
      simp only [without, Opening.without, nextBranch?, Option.map_some,
        Node.withoutBranches_eq_map, List.map_append]
      rfl

theorem doneNodes_without (opening : Opening) :
    doneNodes (opening.without p) = Node.withoutAll p (doneNodes opening) := by
  cases opening with
  | choice done pending =>
    rw [Opening.without, doneNodes, doneNodes]
    induction done with
    | nil => rfl
    | cons branch done ih =>
      obtain ⟨condition, body, location⟩ := branch
      rw [Node.withoutBranches, List.flatMap_cons, List.flatMap_cons, Node.withoutAll_append, ih]
      rfl
  | _ => rfl

theorem unwind_without (h : p (.inert f.source f.location) = false) :
    (f.without p).unwind = Node.withoutAll p f.unwind := by
  rw [unwind, unwind, Node.withoutAll_cons, if_neg (by simp [h]), Node.withoutAll_append]
  exact congrArg (_ :: · ++ _) (doneNodes_without p f.opening)

end Frame

/-! ### Trees read so far -/

namespace Builder

variable (p : Node → Bool) (b : Builder) (t : Token)

/-- The tree read so far with the nodes of the class `p` taken out, also of the open parts. -/
def without : Builder :=
  ⟨Node.withoutAll p b.root, b.frames.map (Frame.without p)⟩

variable {p}

theorem push_without (node : Node) :
    (b.push node).without p =
      if p node then b.without p else (b.without p).push (Node.without p node) := by
  obtain ⟨root, frames⟩ := b
  cases frames with
  | nil =>
    simp only [push, without, List.map_nil, Node.withoutAll_append, Node.withoutAll_cons]
    split <;> simp
  | cons f frames =>
    simp only [push, without, List.map_cons, Frame.push, Frame.without, Node.withoutAll_append,
      Node.withoutAll_cons]
    split <;> simp

variable {b t}

theorem pushInert_without (ht : p (.inert t.value t.location) = false) (b : Builder) :
    (b.pushInert t).without p = (b.without p).pushInert t := by
  rw [pushInert, push_without, ht]
  rfl

theorem nextBranch_without (ht : p (.inert t.value t.location) = false)
    (next : Option (Condition × Location)) :
    (b.nextBranch next t).without p = (b.without p).nextBranch next t := by
  obtain ⟨root, frames⟩ := b
  cases frames with
  | nil => exact pushInert_without ht ⟨root, []⟩
  | cons f frames =>
    have hf := f.nextBranch?_without p next
    cases hnext : f.nextBranch? next with
    | none =>
      rw [hnext] at hf
      simp only [nextBranch, hnext, without, List.map_cons, hf]
      exact pushInert_without ht ⟨root, f :: frames⟩
    | some f' =>
      rw [hnext] at hf
      simp only [nextBranch, hnext, without, List.map_cons, hf]
      rfl

theorem closeFrame_without (ht : p (.inert t.value t.location) = false)
    (hclose : ∀ f : Frame, p f.close = false) (c : Construct) :
    (b.closeFrame c.fits t).without p = (b.without p).closeFrame c.fits t := by
  obtain ⟨root, frames⟩ := b
  cases frames with
  | nil => exact pushInert_without ht ⟨root, []⟩
  | cons f frames =>
    have hf := f.fits_without p c
    cases hfits : c.fits f.opening with
    | false =>
      rw [hfits] at hf
      simp only [closeFrame, hfits, without, List.map_cons, hf]
      exact pushInert_without ht ⟨root, f :: frames⟩
    | true =>
      rw [hfits] at hf
      simp only [closeFrame, hfits, without, List.map_cons, hf, if_true]
      have hpush := push_without (p := p) ⟨root, frames⟩ f.close
      rw [hclose f] at hpush
      rw [Frame.close_without]
      exact hpush

section Unsupported

variable {q : Token → Bool}

theorem isInertOf_close (q : Token → Bool) (f : Frame) : Node.isInertOf q f.close = false := by
  obtain ⟨opening, source, location, nodes⟩ := f
  cases opening with
  | choice done pending => cases pending <;> rfl
  | _ => rfl

theorem readTag_without (ht : Node.isInertOf q (.inert t.value t.location) = false) :
    (b.readTag t).without (Node.isInertOf q) = (b.without (Node.isInertOf q)).readTag t := by
  unfold readTag
  split
  case h_1 => exact push_without b _
  case h_2 | h_3 | h_4 => rfl
  case h_5 | h_6 => exact nextBranch_without ht _
  case h_7 => exact closeFrame_without ht (isInertOf_close q) .block
  case h_8 => exact closeFrame_without ht (isInertOf_close q) .loop
  case h_9 => exact closeFrame_without ht (isInertOf_close q) .choice
  case h_10 => exact pushInert_without ht b

/-- One token is read in the same way with and without the inert tags of a class of tags that are
not supported, unless it is such a tag itself: then it leaves no trace. -/
theorem read_without (hq : Token.AreUnsupported q) (b : Builder) (t : Token) :
    (b.read t).without (Node.isInertOf q) =
      if q t then b.without (Node.isInertOf q) else (b.without (Node.isInertOf q)).read t := by
  obtain ⟨kind, value, location⟩ := t
  split
  · next h =>
    have hkind : kind = .tag := Token.kind_of_directive? (hq _ h)
    obtain ⟨hclassify, hread⟩ := read_of_directive? (b := b) (hq _ h)
    have hinert : Node.isInertOf q (.inert value location) = true := by rwa [hkind] at h
    simp only [hread, readTag, hclassify, pushInert, push_without, hinert, if_true]
  · next h =>
    cases kind with
    | text => exact push_without b _
    | output => exact push_without b _
    | tag => exact readTag_without (eq_false_of_ne_true h)

/-- Tokens are read in the same way with and without the tags of such a class. -/
theorem foldl_read_without (hq : Token.AreUnsupported q) (tokens : List Token) (b : Builder) :
    (tokens.foldl read b).without (Node.isInertOf q) =
      (tokens.filter fun t => !q t).foldl read (b.without (Node.isInertOf q)) := by
  induction tokens generalizing b with
  | nil => rfl
  | cons t tokens ih =>
    rw [List.foldl_cons, ih, read_without hq, List.filter_cons]
    split <;> simp_all

/-- The tag of an open part is supported. -/
theorem isInertOf_opener (hq : Token.AreUnsupported q) {f : Frame} (hf : f.IsOpened) :
    Node.isInertOf q (.inert f.source f.location) = false := by
  refine eq_false_of_ne_true fun h => ?_
  have hunsupported : f.opener.directive? = some .unsupported := hq f.opener h
  obtain ⟨opening, source, location, nodes⟩ := f
  cases opening with
  | block name => cases hunsupported.symm.trans hf
  | loop item collection =>
    obtain ⟨path, hd, -⟩ := hf
    cases hunsupported.symm.trans hd
  | choice done pending =>
    obtain ⟨condition, hd, -⟩ := hf
    cases hunsupported.symm.trans hd

theorem finish_without (hq : Token.AreUnsupported q) (b : Builder)
    (h : ∀ f ∈ b.frames, f.IsOpened) :
    (b.without (Node.isInertOf q)).finish = Node.withoutAll (Node.isInertOf q) b.finish := by
  obtain ⟨root, frames⟩ := b
  induction frames with
  | nil => simp [without, finish]
  | cons f frames ih =>
    obtain ⟨hf, hframes⟩ := List.forall_mem_cons.mp h
    rw [finish_cons, Node.withoutAll_append, ← ih hframes, without, List.map_cons, finish_cons,
      Frame.unwind_without _ _ (isInertOf_opener hq hf)]
    rfl

end Unsupported

end Builder

/-! ### Templates and pages -/

namespace Template

variable {q : Token → Bool}

/-- **Tags that are not supported become nothing but inert tags.** Without them, a template is what
it is with them, less their inert tags. -/
theorem ofTokens_filter (hq : Token.AreUnsupported q) (tokens : List Token) :
    ofTokens (tokens.filter fun t => !q t) = (ofTokens tokens).without (Node.isInertOf q) := by
  have hread := Builder.foldl_read_without hq tokens .empty
  have hfinish := Builder.finish_without hq (tokens.foldl Builder.read .empty)
    (Builder.isOpened_foldl_read (by simp [Builder.empty]) tokens)
  rw [hread] at hfinish
  exact congrArg (Template.mk · .start) hfinish

variable {t t' parent parent' : Template}

theorem DifferBy.without_eq (hq : Token.AreUnsupported q) (h : DifferBy q t t') :
    t.without (Node.isInertOf q) = t'.without (Node.isInertOf q) := by
  obtain ⟨tokens, tokens', htokens, rfl, rfl⟩ := h
  rw [← ofTokens_filter hq, ← ofTokens_filter hq, htokens]

theorem parent?_congr (h : t.without (Node.isInertOf q) = t'.without (Node.isInertOf q)) :
    t.parent? = t'.parent? := by
  rw [← parent?_without q t, h, parent?_without]

theorem render_congr (h : t.without (Node.isInertOf q) = t'.without (Node.isInertOf q))
    (globals : Entries Value) (data : Value) : t.render globals data = t'.render globals data := by
  rw [← render_without q t, h, render_without]

theorem extend_congr
    (hparent : parent.without (Node.isInertOf q) = parent'.without (Node.isInertOf q))
    (h : t.without (Node.isInertOf q) = t'.without (Node.isInertOf q)) :
    (parent.extend t).without (Node.isInertOf q) =
      (parent'.extend t').without (Node.isInertOf q) := by
  rw [← extend_without, hparent, h, extend_without]

/-- The page of a template in the tree of the parent that was found, if one was. -/
theorem render_within_congr (hq : Token.AreUnsupported q)
    (h : t.without (Node.isInertOf q) = t'.without (Node.isInertOf q))
    {found found' : Option Template} (hfound : Option.Rel (DifferBy q) found found')
    (globals : Entries Value) (data : Value) :
    (t.within found).render globals data = (t'.within found').render globals data := by
  cases hfound with
  | some hparent => exact render_congr (extend_congr (hparent.without_eq hq) h) globals data
  | none => exact render_congr h globals data

variable {σ : Type} [Files (StateM σ)]

/-- **Tags that are not supported are invisible.** Two sequences of tokens that differ only by such
tags, wherever they stand, have the same tree once the inert tags of these are taken out, name the
same parent and give the same page. The same holds of pages in the tree of a parent, if the
templates found for the name of the parent also differ only by such tags. -/
theorem ofTokens_differBy (hq : Token.AreUnsupported q) {tokens tokens' : List Token}
    (h : Token.DifferBy q tokens tokens') :
    let t := ofTokens tokens
    let t' := ofTokens tokens'
    ofTokens (tokens.filter fun t => !q t) = t.without (Node.isInertOf q) ∧
    t.without (Node.isInertOf q) = t'.without (Node.isInertOf q) ∧
    t.parent? = t'.parent? ∧
    (∀ globals data, t.render globals data = t'.render globals data) ∧
    (∀ parent parent' globals data, DifferBy q parent parent' →
      (parent.extend t).render globals data = (parent'.extend t').render globals data) ∧
    ∀ (e : Engine) (data : Value) (s s' : σ),
      (∀ name location, t.parent? = some (name, location) →
        Option.Rel (DifferBy q) ((e.loader.load? name : StateM σ _).run s).1
          ((e.loader.load? name : StateM σ _).run s').1) →
      ((e.renderTemplate t data : StateM σ Text).run s).1 =
        ((e.renderTemplate t' data : StateM σ Text).run s').1 := by
  intro t t'
  have hwithout : t.without (Node.isInertOf q) = t'.without (Node.isInertOf q) :=
    DifferBy.without_eq hq ⟨tokens, tokens', h, rfl, rfl⟩
  refine ⟨ofTokens_filter hq tokens, hwithout, parent?_congr hwithout, render_congr hwithout,
    fun parent parent' globals data hparent =>
      render_within_congr hq hwithout (.some hparent) globals data,
    fun e data s s' hfound => ?_⟩
  have hparent : t'.parent? = t.parent? := (parent?_congr hwithout).symm
  cases hname : t.parent? with
  | none =>
    rw [hname] at hparent
    rw [Engine.renderTemplate, Engine.renderTemplate, Loader.inherit_of_parent?_none _ hname,
      Loader.inherit_of_parent?_none _ hparent]
    exact render_congr hwithout e.globals data
  | some parent =>
    obtain ⟨name, location⟩ := parent
    rw [hname] at hparent
    rw [Engine.renderTemplate, Engine.renderTemplate, Loader.inherit_of_parent? _ hname,
      Loader.inherit_of_parent? _ hparent]
    exact render_within_congr hq hwithout (hfound name location hname) e.globals data

/-- Tags that are not supported around a branch of a choice in a block of the child, and one at the
end of the parent. -/
theorem ofTokens_differBy_panel :
    let q : Token → Bool := fun t => t.directive? = some .unsupported
    let choice : Text :=
      "\x7b% if t %\x7d\x7b% set t %\x7d\x7b% else %\x7d\x7b% raw %\x7dno\x7b% endif %\x7d"
    let child := Token.tokenize
      ("\x7b% extends 'base' %\x7d\x7b% block b %\x7d" ++ choice ++ "\x7b% endblock %\x7d")
    let source : Text := "<\x7b% block b %\x7d-\x7b% endblock %\x7d>"
    let store (source : Text) : Store :=
      { folders := ["templates"], files := [("templates/base.twig", Text.toUtf8 source)] }
    let e := Engine.ofLoader Settings.defaultLoader
    let page (child : List Token) (source : Text) : Text :=
      ((e.renderTemplate (ofTokens child) .null : StateM Store Text).run (store source)).1
    Token.AreUnsupported q ∧ Token.DifferBy q child (child.filter fun t => !q t) ∧
      (child.filter fun t => !q t).length + 2 = child.length ∧
      page child (source ++ "\x7b% set u %\x7d") = page (child.filter fun t => !q t) source ∧
      page (child.filter fun t => !q t) source = "<no>" := by
  intro q choice child source store e page
  have hq : Token.AreUnsupported q := fun t h => of_decide_eq_true h
  have hchild : Token.DifferBy q child (child.filter fun t => !q t) := by
    simp [Token.DifferBy, List.filter_filter]
  have hsource : Token.DifferBy q (Token.tokenize (source ++ "\x7b% set u %\x7d"))
      (Token.tokenize source) := by
    unfold Token.DifferBy
    decide +kernel
  have hparent : (ofTokens child).parent? = some (("base" : Text), Location.start) := by
    decide +kernel
  have hpath : e.loader.resolve? "base" = some ⟨"templates/base.twig"⟩ := by decide +kernel
  have hfound : ∀ source, Text.ofUtf8Lossy (Text.toUtf8 source) = source →
      ((e.loader.load? "base" : StateM Store _).run (store source)).1 =
        some (ofTokens (Token.tokenize source)) := by
    intro source h
    have hcontent : Files.content? (store source) ⟨"templates/base.twig"⟩ =
        some (Text.toUtf8 source) := Store.filesContent?_of_content? rfl rfl rfl
    rw [Loader.run_load?, Loader.found?, hpath, Option.bind_some, hcontent, Option.map_some, h]
    rfl
  refine ⟨hq, hchild, by decide +kernel, ?_, by decide +kernel⟩
  refine (ofTokens_differBy hq hchild).2.2.2.2.2 e .null _ _ fun name location hname => ?_
  cases hparent.symm.trans hname
  rw [hfound _ (by decide +kernel), hfound _ (by decide +kernel)]
  exact .some ⟨_, _, hsource, rfl, rfl⟩

end Template

end PageTemplate
