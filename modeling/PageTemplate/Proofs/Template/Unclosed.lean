import PageTemplate.Proofs.Render.Restored
import PageTemplate.Proofs.Template.Adding

/-!
# Parts that are never closed

A block, a loop or a choice whose closing tag never comes is given up: its opening tag is inert, and
its content stays where it is, in its order. This holds for any number of such parts within each
other, of any kinds, as long as the tokens between their opening tags close what they open
themselves and nothing else.

## Main definitions

* `PageTemplate.Token.endsPart` — closing tags, and tags for a further branch.
* `PageTemplate.Token.AreSelfContained` — tokens that close what they open and nothing else.

## Main statements

* `PageTemplate.Builder.adds_of_areSelfContained` — such tokens add the nodes of their own template
  to any tree.
* `PageTemplate.Builder.finish_foldl_read_unclosed` — what a part that is never closed leaves.
* `PageTemplate.Template.ofTokens_unclosed` — the nodes and the page of a template with such parts.
-/

namespace PageTemplate

namespace Token

/-- Whether the token is a closing tag or a tag for a further branch of a choice. -/
def endsPart (t : Token) : Bool :=
  match t.directive? with
  | some .closeBlock => true
  | some .closeLoop => true
  | some .closeChoice => true
  | some (.nextBranch _) => true
  | some .lastBranch => true
  | _ => false

theorem fate_of_endsPart_eq_false {t : Token} (h : t.endsPart = false) (n : Nesting) :
    n.fate t = .kept := by
  cases hfate : n.fate t with
  | kept => rfl
  | closes c =>
    rw [endsPart, (Nesting.fate_eq_closes_iff.mp hfate).1] at h
    cases c <;> cases h
  | switches =>
    rcases (Nesting.fate_eq_switches_iff.mp hfate).1 with ⟨condition, hd⟩ | hd
    all_goals
      rw [endsPart, hd] at h
      cases h

/-- Read alone, the tokens leave no part open, and where none of the parts that they open is open
there is no closing tag and no tag for a further branch among them. -/
structure AreSelfContained (tokens : List Token) : Prop where
  frames_eq_nil : (tokens.foldl Builder.read .empty).frames = []
  endsPart_eq_false : ∀ i (h : i < tokens.length),
    ((tokens.take i).foldl Builder.read .empty).frames = [] → tokens[i].endsPart = false

instance (tokens : List Token) : Decidable (AreSelfContained tokens) :=
  decidable_of_iff
    ((tokens.foldl Builder.read .empty).frames = [] ∧ ∀ i (h : i < tokens.length),
      ((tokens.take i).foldl Builder.read .empty).frames = [] → tokens[i].endsPart = false)
    ⟨fun h => ⟨h.1, h.2⟩, fun h => ⟨h.1, h.2⟩⟩

end Token

namespace Builder

variable {tokens body : List Token} {t : Token}

/-- Wherever such tokens stand, they are read as if they stood alone. -/
theorem adds_of_areSelfContained (h : Token.AreSelfContained tokens) :
    Adds tokens (Template.ofTokens tokens).nodes := by
  intro b
  have hread : tokens.foldl read (empty.onto b) = (tokens.foldl read empty).onto b := by
    refine foldl_read_onto fun front t back heq hframes =>
      Token.fate_of_endsPart_eq_false ?_ b.nesting
    subst heq
    have hends := h.endsPart_eq_false front.length (by simp)
    rw [List.take_left, List.getElem_append_right (Nat.le_refl _)] at hends
    simpa using hends hframes
  rw [empty_onto, onto_eq_foldl_push h.frames_eq_nil] at hread
  exact hread

/-- An opening tag that stays without its closing tag is inert, and the nodes after it are those
that the tokens after it add. -/
theorem finish_foldl_read_unclosed {nodes : List Node} (b : Builder)
    (hopening : t.opening?.isSome) (hbody : Adds body nodes) :
    ((t :: body).foldl read b).finish =
      b.finish ++ .inert t.value t.location :: nodes := by
  obtain ⟨opening, hopen⟩ := Option.isSome_iff_exists.mp hopening
  rw [List.foldl_cons, read_of_opening? hopen, hbody, finish_foldl_push,
    finish_openFrame b opening t (leaf_of_opening? hopen).2, List.append_assoc]
  rfl

theorem finish_foldl_read_flatMap (parts : List (Token × List Token)) (b : Builder)
    (h : ∀ part ∈ parts, part.1.opening?.isSome ∧ Token.AreSelfContained part.2) :
    ((parts.flatMap fun part => part.1 :: part.2).foldl read b).finish =
      b.finish ++ parts.flatMap fun part =>
        .inert part.1.value part.1.location :: (Template.ofTokens part.2).nodes := by
  induction parts generalizing b with
  | nil => exact (List.append_nil _).symm
  | cons part parts ih =>
    obtain ⟨⟨hopening, hbody⟩, hparts⟩ := List.forall_mem_cons.mp h
    rw [List.flatMap_cons, List.foldl_append, ih _ hparts,
      finish_foldl_read_unclosed b hopening (adds_of_areSelfContained hbody), List.flatMap_cons,
      List.append_assoc]

end Builder

namespace Template

/-- **Parts that are never closed keep their content.** Let any tokens be followed by opening tags,
each with tokens after it that close what they open and nothing else. Then the nodes of the whole
are those of the first tokens, and for each opening tag an inert tag and the nodes of the tokens
after it, read as if they stood alone. So the page of the whole is the page of the first tokens
followed by the pages of the tokens after each opening tag, whatever its condition or collection. -/
theorem ofTokens_unclosed (first : List Token) (parts : List (Token × List Token))
    (h : ∀ part ∈ parts, part.1.opening?.isSome ∧ Token.AreSelfContained part.2) :
    let t := ofTokens (first ++ parts.flatMap fun part => part.1 :: part.2)
    t.nodes = (ofTokens first).nodes ++ parts.flatMap (fun part =>
      .inert part.1.value part.1.location :: (ofTokens part.2).nodes) ∧
    ∀ (globals : Entries Value) (data : Value),
      t.render globals data = (ofTokens first).render globals data ++
        parts.flatMap fun part => (ofTokens part.2).render globals data := by
  intro t
  have hnodes : t.nodes = (ofTokens first).nodes ++ parts.flatMap (fun part =>
      .inert part.1.value part.1.location :: (ofTokens part.2).nodes) := by
    simp only [t, ofTokens, List.foldl_append]
    exact Builder.finish_foldl_read_flatMap parts _ h
  refine ⟨hnodes, fun globals data => ?_⟩
  simp only [render, hnodes, Node.renderAll_append_fst, Node.renderAll_flatMap_fst,
    Node.renderAll_cons_fst]
  rfl

/-- A choice, a block and a loop that are never closed, with closed parts between their tags. -/
theorem ofTokens_unclosed_rows :
    let tokens (source : Text) := Token.tokenize source
    let opener (value : Text) : Token := ⟨.tag, value, .start⟩
    let first := tokens "<\x7b%endif%\x7d"
    let loop := "\x7b%for r in rows%\x7d\x7b%else%\x7d\x7b\x7br.n\x7d\x7d\x7b%endfor%\x7d"
    let choice := "\x7b%if no%\x7d?\x7b%else%\x7db\x7b%endif%\x7d"
    let parts :=
      [(opener "\x7b%if no%\x7d", tokens ("a" ++ loop)),
        (opener "\x7b%block b%\x7d", tokens choice),
        (opener "\x7b%for r in rows%\x7d", tokens "c\x7b\x7br.n\x7d\x7d>")]
    let data : Value := .object [("rows", .array [.object [("n", .string "1")]])]
    (∀ part ∈ parts, part.1.opening?.isSome ∧ Token.AreSelfContained part.2) ∧
      (ofTokens (first ++ parts.flatMap fun part => part.1 :: part.2)).render [] data =
        "<a1bc\x7b\x7br.n\x7d\x7d>" := by
  intro tokens opener first loop choice parts data
  have h : ∀ part ∈ parts, part.1.opening?.isSome ∧ Token.AreSelfContained part.2 := by
    decide +kernel
  refine ⟨h, ?_⟩
  rw [(ofTokens_unclosed first parts h).2]
  decide +kernel

end Template

end PageTemplate
