import Mathlib.Data.List.Basic
import PageTemplate.Engine
import PageTemplate.Proofs.Loader.Found
import PageTemplate.Proofs.Render.Ignored
import PageTemplate.Proofs.Render.Restored
import PageTemplate.Proofs.Template.Adding
import PageTemplate.Proofs.Token.Cutting

/-!
# Sources that are their own pages

A source without tags is a template of texts and outputs that names no parent. If none of the
outputs has anything to show, each of them is left as it is, with the blanks and the filters that
are written in it, and so the page is the source, character for character.

## Main definitions

* `PageTemplate.Expression.IsIdle`, `PageTemplate.Token.IsIdle` — outputs with nothing to show, and
  tokens that are texts or such outputs.

## Main statements

* `PageTemplate.Template.nodes_ofTokens` — without tags every token is a node.
* `PageTemplate.Template.render_ofTokens_of_isIdle` — the page of such tokens.
* `PageTemplate.Engine.renderSource_eq_self` — the page of a source of such tokens is the source.
-/

namespace PageTemplate

variable {s : Scope}

/-! ### Outputs with nothing to show -/

/-- Outside all loops, what a path leads to is what an output shows. -/
theorem Render.outputValue?_eq_resolve? (hs : s.items = []) {path : Path}
    (hpath : path.segments ≠ []) : outputValue? s path = s.resolve? path.segments := by
  obtain ⟨segments, location⟩ := path
  obtain ⟨name, fields, rfl⟩ := List.exists_cons_of_ne_nil hpath
  cases fields with
  | nil => simp [outputValue?, Path.isDotted, Path.head, Scope.resolve?, Scope.lookup?, hs]
  | cons field fields => simp [outputValue?, Path.isDotted]

/-- The path has a dot and leads nowhere, and `json_encode` is not written; or the path leads to an
array or object, and no filter but `raw` is written. -/
def Expression.IsIdle (s : Scope) (e : Expression) : Prop :=
  ((∀ filter ∈ e.filters, filter.name ≠ "json_encode") ∧ e.path.isDotted = true ∧
      s.resolve? e.path.segments = none) ∨
    ((s.resolve? e.path.segments).any Value.isContainer = true ∧
      ∀ filter ∈ e.filters, filter.name = "raw")

instance (s : Scope) (e : Expression) : Decidable (e.IsIdle s) :=
  inferInstanceAs (Decidable (_ ∨ _))

/-- Outside all loops, such an output is left as it is. -/
theorem Expression.IsIdle.keepsSource {e : Expression} (h : e.IsIdle s) (hs : s.items = []) :
    Render.KeepsSource s e := by
  have hbound : (e.path.isDotted && s.isLoopName e.path.head) = false := by
    simp [Scope.isLoopName, hs]
  rcases h with ⟨hjson, hdotted, hnone⟩ | ⟨hany, hraw⟩
  · refine ⟨hbound, ?_, .inl ⟨?_, hdotted⟩⟩
    · rw [Chain.isFlag_jsonEncode.ofFilters, List.any_eq_false]
      exact fun filter hfilter => by simpa using hjson filter hfilter
    · rw [Render.outputValue?, if_pos hdotted, hnone]
  · have hplain : e.isPlain = true :=
      List.all_eq_true.mpr fun filter hfilter => beq_iff_eq.mpr (hraw filter hfilter)
    obtain ⟨v, hv, hcontainer⟩ := (Option.any_eq_true _ _).mp hany
    have hpath : e.path.segments ≠ [] := by
      intro hnil
      rw [hnil] at hv
      cases hv
    refine ⟨hbound, Chain.isFlag_jsonEncode.eq_false_of_isPlain (by decide) hplain,
      .inr ⟨⟨v, ?_, hcontainer⟩, hplain⟩⟩
    rw [Render.outputValue?_eq_resolve? hs hpath, hv]

namespace Token

variable {t : Token} {tokens : List Token}

/-- The token is a text, or an output that has no expression or nothing to show. -/
def IsIdle (s : Scope) (t : Token) : Prop :=
  t.kind = .text ∨
    t.kind = .output ∧ ∀ e ∈ Expression.parse? t.content t.location, e.IsIdle s

instance (s : Scope) (t : Token) : Decidable (t.IsIdle s) :=
  inferInstanceAs (Decidable (_ ∨ _ ∧ _))

theorem IsIdle.kind_ne_tag (h : t.IsIdle s) : t.kind ≠ .tag := by
  rcases h with hkind | ⟨hkind, -⟩ <;> simp [hkind]

/-- The node of such a token has the text of the token. -/
theorem IsIdle.render_leaf (h : t.IsIdle s) (hs : s.items = []) :
    (Node.render t.leaf s).1 = t.value := by
  rcases h with hkind | ⟨hkind, hidle⟩
  · rw [leaf, hkind]
    rfl
  · rw [leaf, hkind]
    simp only [Node.render]
    cases he : Expression.parse? t.content t.location with
    | none => rfl
    | some e => exact Render.expressionText_of_keepsSource ((hidle e he).keepsSource hs) t.value

end Token

/-! ### Tokens without tags -/

section Tagless

variable {t : Token} {tokens : List Token}

theorem Node.parent?_leaf (h : t.kind ≠ .tag) : t.leaf.parent? = none := by
  rw [Token.leaf]
  cases hkind : t.kind with
  | tag => exact absurd hkind h
  | _ => rfl

theorem Node.parentOf?_map_leaf (h : ∀ t ∈ tokens, t.kind ≠ .tag) :
    parentOf? (tokens.map Token.leaf) = none := by
  induction tokens with
  | nil => rfl
  | cons t tokens ih =>
    obtain ⟨ht, htokens⟩ := List.forall_mem_cons.mp h
    rw [List.map_cons, parentOf?, parent?_leaf ht, Option.none_or, ih htokens]

theorem Builder.read_of_kind_ne_tag (h : t.kind ≠ .tag) (b : Builder) :
    b.read t = b.push t.leaf := by
  rw [read, Token.leaf]
  cases hkind : t.kind with
  | tag => exact absurd hkind h
  | _ => rfl

theorem Builder.adds_map_leaf (h : ∀ t ∈ tokens, t.kind ≠ .tag) :
    Adds tokens (tokens.map Token.leaf) := by
  induction tokens with
  | nil => exact adds_nil
  | cons t tokens ih =>
    obtain ⟨ht, htokens⟩ := List.forall_mem_cons.mp h
    intro b
    rw [List.foldl_cons, read_of_kind_ne_tag ht, ih htokens, List.map_cons, List.foldl_cons]

/-- Without tags every token is a node of its own. -/
theorem Template.nodes_ofTokens (h : ∀ t ∈ tokens, t.kind ≠ .tag) :
    (ofTokens tokens).nodes = tokens.map Token.leaf := by
  rw [ofTokens, Builder.adds_map_leaf h, Builder.finish_foldl_push]
  rfl

theorem Template.parent?_ofTokens_of_kind_ne_tag (h : ∀ t ∈ tokens, t.kind ≠ .tag) :
    (ofTokens tokens).parent? = none := by
  rw [parent?, nodes_ofTokens h, Node.parentOf?_map_leaf h]

end Tagless

/-- The nodes of such tokens have the text of the tokens. -/
theorem Node.renderAll_map_leaf_fst {tokens : List Token} (h : ∀ t ∈ tokens, t.IsIdle s)
    (hs : s.items = []) :
    (renderAll (tokens.map Token.leaf) s).1 = tokens.flatMap Token.value := by
  rw [renderAll_fst, List.flatMap_map]
  exact List.flatMap_congr fun t ht => (h t ht).render_leaf hs

/-- The page of such tokens is their text. -/
theorem Template.render_ofTokens_of_isIdle {tokens : List Token} {globals : Entries Value}
    {data : Value} (h : ∀ t ∈ tokens, t.IsIdle (Scope.ofData globals data)) :
    (ofTokens tokens).render globals data = tokens.flatMap Token.value := by
  rw [render, nodes_ofTokens fun t ht => (h t ht).kind_ne_tag,
    Node.renderAll_map_leaf_fst h rfl]

/-! ### Sources -/

namespace Engine

variable {m : Type → Type} [Monad m] [LawfulMonad m] [Files m]

/-- **A source with nothing to evaluate is its own page.** If the tokens of a source are texts and
outputs, and each of the outputs has no expression or nothing to show, the page of the source is the
source. No file is looked at, and rendering the page again gives it back. -/
theorem renderSource_eq_self (e : Engine) (source : Text) (data : Value)
    (h : ∀ t ∈ Token.tokenize source, t.IsIdle (Scope.ofData e.globals data)) :
    (e.renderSource source data : m Text) = pure source ∧
      (e.renderSource source data >>= fun page => e.renderSource page data : m Text) =
        pure source := by
  have hparent : (Template.parse source).parent? = none :=
    Template.parent?_ofTokens_of_kind_ne_tag fun t ht => (h t ht).kind_ne_tag
  have hpage : (e.renderSource source data : m Text) = pure source := by
    rw [renderSource, renderTemplate, Loader.inherit_of_parent?_none e.loader hparent, pure_bind,
      Template.parse, Template.render_ofTokens_of_isIdle h, Token.flatMap_tokenize]
  exact ⟨hpage, by rw [hpage, pure_bind, hpage]⟩

/-- A tag and an output without their ends, a path that leads nowhere, an object, a content that is
no expression, and blanks within the outputs. -/
theorem renderSource_eq_self_user :
    let e := ofLoader ⟨⟨"templates"⟩, Loader.defaultExtension⟩
    let source : Text := "é\x7b% if\x7b\x7b  user.x|upper \x7d\x7d\x7d" ++
      "\x7b\x7b user |raw\x7d\x7d\x7b\x7b!\x7d\x7d\x7b\x7b user"
    let data : Value := .object [("user", .object [("name", .string "Al")])]
    (∀ t ∈ Token.tokenize source, t.IsIdle (Scope.ofData e.globals data)) ∧
      (e.renderSource source data : StateM Store Text) = pure source ∧
      (e.renderSource source data >>= fun page => e.renderSource page data : StateM Store Text) =
        pure source := by
  intro e source data
  have h : ∀ t ∈ Token.tokenize source, t.IsIdle (Scope.ofData e.globals data) := by decide +kernel
  exact ⟨h, renderSource_eq_self e source data h⟩

end Engine

end PageTemplate
