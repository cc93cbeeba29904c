import PageTemplate.Proofs.Node.Unplaced
import PageTemplate.Proofs.Node.Written
import PageTemplate.Proofs.Template.Adding

/-!
# Written templates are read back

A template that is written down and read again is the same template, apart from the places of its
tags. The tokens that are written for a node add one node to any tree, and they leave the parts that
are open as they were.

## Main definitions

* `PageTemplate.Frame.collecting` — an open choice with the branches that it has so far.
* `PageTemplate.Builder.AddsBranches`, `PageTemplate.Builder.AddsOtherwise` — the branches that
  tokens add to any choice that can have more.

## Main statements

* `PageTemplate.Node.adds_pieces` — reading what is written for a node adds the node.
* `PageTemplate.Template.unplaced_parse_print` — reading what is written for a template gives the
  template.
-/

namespace PageTemplate

variable {t : Token}

/-! ### Tokens of written directives -/

theorem Token.directive?_of_hasTag {d : Directive} {tag : Text} (h : d.HasTag tag)
    (ht : t.piece = (.tag, tag)) : t.directive? = some d := by
  obtain ⟨hkind, rfl⟩ := Prod.mk.inj ht
  rw [Token.directive?, if_pos hkind, h.classify_content hkind]

theorem Token.directive?_of_piece {d : Directive} (h : d.IsWellFormed) (ht : t.piece = d.piece) :
    t.directive? = some d :=
  directive?_of_hasTag (Directive.hasTag_tag h) ht

theorem Token.content_of_piece {kind : Token.Kind} {inner source : Text}
    (ht : t.piece = (kind, source)) (h : kind.Encloses inner source) :
    t.kind = kind ∧ t.value = source ∧ t.content = Text.trim inner := by
  obtain ⟨rfl, rfl⟩ := Prod.mk.inj ht
  exact ⟨rfl, rfl, Token.content_eq_trim h⟩

/-- Tokens of parts between an opening and a closing part. -/
theorem Token.exists_of_map_piece {tokens : List Token} {opening closing : Token.Kind × Text}
    {pieces : List (Token.Kind × Text)}
    (ht : tokens.map Token.piece = opening :: (pieces ++ [closing])) :
    ∃ t inside u, tokens = t :: (inside ++ [u]) ∧ t.piece = opening ∧
      inside.map Token.piece = pieces ∧ u.piece = closing := by
  obtain ⟨t, tail, rfl, hopening, htail⟩ := List.map_eq_cons_iff.mp ht
  obtain ⟨inside, last, rfl, hinside, hlast⟩ := List.map_eq_append_iff.mp htail
  obtain ⟨u, rfl, hclosing⟩ := List.map_eq_singleton_iff.mp hlast
  exact ⟨t, inside, u, rfl, hopening, hinside, hclosing⟩

/-! ### Frames while they are filled -/

namespace Frame

/-- A choice that is open: some branches are complete, `last` and those after it have begun one
after the other, and the last of them is being collected. -/
def collecting (source : Text) (location : Location) : List Branch → Branch → List Branch → Frame
  | done, last, [] =>
    ⟨.choice done (some (last.condition, last.location)), source, location, last.body⟩
  | done, last, next :: branches => collecting source location (done ++ [last]) next branches

variable {source : Text} {location : Location}

theorem nextBranch?_collecting (done : List Branch) (last : Branch) (branches : List Branch)
    (next : Option (Condition × Location)) :
    (collecting source location done last branches).nextBranch? next =
      some ⟨.choice (done ++ last :: branches) next, source, location, []⟩ := by
  induction branches generalizing done last with
  | nil =>
    obtain ⟨condition, body, place⟩ := last
    rfl
  | cons branch branches ih =>
    rw [collecting, ih, List.append_assoc]
    rfl

theorem close_collecting (done : List Branch) (last : Branch) (branches : List Branch) :
    (collecting source location done last branches).close =
      .choice (done ++ last :: branches) none location := by
  induction branches generalizing done last with
  | nil =>
    obtain ⟨condition, body, place⟩ := last
    rfl
  | cons branch branches ih =>
    rw [collecting, ih, List.append_assoc]
    rfl

theorem isChoice_collecting (done : List Branch) (last : Branch) (branches : List Branch) :
    (collecting source location done last branches).opening.isChoice = true := by
  induction branches generalizing done last with
  | nil => rfl
  | cons branch branches ih => rw [collecting, ih]

end Frame

namespace Builder

variable {b : Builder} {tokens front back : List Token} {nodes frontNodes backNodes : List Node}

/-- An opening tag, nodes and the closing tag add the node that the part is once it is closed. -/
theorem adds_enclosed {opening : Frame.Opening} {c : Construct} {u : Token}
    (hopen : t.opening? = some opening) (hfits : c.fits opening = true)
    (hclose : u.directive? = some c.closing) (h : Adds tokens nodes) :
    Adds (t :: (tokens ++ [u])) [Frame.close ⟨opening, t.value, t.location, nodes⟩] := by
  intro b
  rw [List.foldl_cons, read_of_opening? hopen, List.foldl_append, h, openFrame, foldl_push_frame,
    List.foldl_cons, List.foldl_nil, read_closing _ _ hclose hfits]
  rfl

/-! ### Branches of a choice -/

/-- The tokens add the branches to any choice that can have more. -/
def AddsBranches (tokens : List Token) (branches : List Branch) : Prop :=
  ∀ root frames source location done last,
    tokens.foldl read ⟨root, Frame.collecting source location done last [] :: frames⟩ =
      ⟨root, Frame.collecting source location done last branches :: frames⟩

/-- After the tokens, a choice that can have more branches becomes, when it is closed, a choice with
the given last branch. -/
def AddsOtherwise (tokens : List Token) (otherwise : Option (List Node)) : Prop :=
  ∀ root frames source location done last branches, ∃ f : Frame,
    tokens.foldl read ⟨root, Frame.collecting source location done last branches :: frames⟩ =
        ⟨root, f :: frames⟩ ∧
      f.opening.isChoice = true ∧ f.close = .choice (done ++ last :: branches) otherwise location

theorem addsBranches_nil : AddsBranches [] [] := fun _ _ _ _ _ _ => rfl

theorem addsOtherwise_none : AddsOtherwise [] none :=
  fun _ _ _ _ done last branches =>
    ⟨_, rfl, Frame.isChoice_collecting done last branches,
      Frame.close_collecting done last branches⟩

theorem addsBranches_cons {condition : Text} {branches : List Branch}
    (ht : t.directive? = some (.nextBranch condition)) (hbody : Adds tokens nodes)
    (hback : AddsBranches back branches) :
    AddsBranches (t :: tokens ++ back)
      (.mk (Condition.parse condition t.location) nodes t.location :: branches) := by
  intro root frames source location done last
  have hbranch : t.branch? =
      some (some (Condition.parse condition t.location, t.location)) := by rw [Token.branch?, ht]
  rw [List.cons_append, List.foldl_cons, List.foldl_append,
    read_branching root frames hbranch (Frame.nextBranch?_collecting done last [] _), hbody,
    foldl_push_frame]
  exact hback root frames source location (done ++ [last])
    (.mk (Condition.parse condition t.location) nodes t.location)

theorem addsOtherwise_some (ht : t.directive? = some .lastBranch) (hbody : Adds tokens nodes) :
    AddsOtherwise (t :: tokens) (some nodes) := by
  intro root frames source location done last branches
  have hbranch : t.branch? = some none := by rw [Token.branch?, ht]
  refine ⟨⟨.choice (done ++ last :: branches) none, source, location, nodes⟩, ?_, rfl, rfl⟩
  rw [List.foldl_cons, read_branching root frames hbranch
    (Frame.nextBranch?_collecting done last branches _), hbody, foldl_push_frame]
  rfl

theorem adds_choice {condition : Text} {branches : List Branch} {otherwise : Option (List Node)}
    {final : List Token} {u : Token} (ht : t.directive? = some (.openChoice condition))
    (hbody : Adds tokens nodes) (hbranches : AddsBranches back branches)
    (hotherwise : AddsOtherwise final otherwise) (hu : u.directive? = some .closeChoice) :
    Adds (t :: tokens ++ back ++ (final ++ [u]))
      [.choice (.mk (Condition.parse condition t.location) nodes t.location :: branches) otherwise
        t.location] := by
  intro b
  have hopening : t.opening? =
      some (.choice [] (some (Condition.parse condition t.location, t.location))) := by
    rw [Token.opening?, ht]
  let first : Branch := .mk (Condition.parse condition t.location) nodes t.location
  have hfirst : (t :: tokens).foldl read b =
      ⟨b.root, Frame.collecting t.value t.location [] first [] :: b.frames⟩ := by
    rw [List.foldl_cons, read_of_opening? hopening, openFrame, hbody, foldl_push_frame]
    rfl
  obtain ⟨f, hread, hchoice, hclose⟩ :=
    hotherwise b.root b.frames t.value t.location [] first branches
  rw [List.foldl_append, List.foldl_append, List.foldl_append, hfirst, hbranches, hread,
    List.foldl_cons, List.foldl_nil, read_closing (c := .choice) _ _ hu hchoice, hclose]
  rfl

end Builder

/-! ### Reading what is written

The induction is on the tree. It goes through because nothing is asked of what was read before: the
body of a part is read into the frame of that part as it would be read into an empty tree. -/

namespace Node

open Builder (Adds AddsBranches AddsOtherwise)

mutual

/-- **What is written for a node adds the node.** The node that its tokens add differs from the
given one at most in its places. -/
theorem adds_pieces : (node : Node) → node.IsWellFormed → (tokens : List Token) →
    tokens.map Token.piece = node.pieces →
    ∃ node', unplaced node' = unplaced node ∧ Adds tokens [node']
  | text content _, _, tokens, ht => by
    obtain ⟨t, rfl, hpiece⟩ := List.map_eq_singleton_iff.mp ht
    obtain ⟨hkind, rfl⟩ := Prod.mk.inj hpiece
    refine ⟨.text t.value t.location, rfl, fun b => ?_⟩
    simp only [List.foldl_cons, List.foldl_nil, Builder.read, hkind]
  | output source expression _, ⟨inner, hencloses, place, hexpression⟩, tokens, ht => by
    obtain ⟨t, rfl, hpiece⟩ := List.map_eq_singleton_iff.mp ht
    obtain ⟨hkind, hvalue, hcontent⟩ := Token.content_of_piece hpiece hencloses
    refine ⟨.output source (Expression.parse? (Text.trim inner) t.location) t.location, ?_,
      fun b => ?_⟩
    · rw [unplaced, unplaced, hexpression, Expression.map_unplaced_parse?,
        Expression.map_unplaced_parse?]
    · simp only [List.foldl_cons, List.foldl_nil, Builder.read, hkind, hvalue, hcontent]
  | inert source _, ⟨inner, hencloses, hclassify⟩, tokens, ht => by
    obtain ⟨t, rfl, hpiece⟩ := List.map_eq_singleton_iff.mp ht
    obtain ⟨hkind, hvalue, hcontent⟩ := Token.content_of_piece hpiece hencloses
    refine ⟨.inert source t.location, rfl, fun b => ?_⟩
    simp only [List.foldl_cons, List.foldl_nil, Builder.read, hkind, Builder.readTag, hcontent,
      hclassify, Builder.pushInert, hvalue]
  | inherit parent _, h, tokens, ht => by
    obtain ⟨t, rfl, hpiece⟩ := List.map_eq_singleton_iff.mp ht
    have hd : t.directive? = some (.inherit parent) := Token.directive?_of_piece h hpiece
    refine ⟨.inherit parent t.location, rfl, fun b => ?_⟩
    obtain ⟨hclassify, hread⟩ := Builder.read_of_directive? (b := b) hd
    rw [List.foldl_cons, List.foldl_nil, hread, Builder.readTag, hclassify]
    rfl
  | block name body _, ⟨hname, hbody⟩, tokens, ht => by
    obtain ⟨t, inside, u, rfl, hopen, hinside, hclose⟩ := Token.exists_of_map_piece ht
    obtain ⟨body', hbody', hadds⟩ := adds_piecesAll body hbody inside hinside
    have htag : t.directive? = some (.openBlock name) := Token.directive?_of_piece hname hopen
    have hu : u.directive? = some (Construct.closing .block) :=
      Token.directive?_of_piece trivial hclose
    have hopening : t.opening? = some (.block name) := by rw [Token.opening?, htag]
    refine ⟨.block name body' t.location, by rw [unplaced, unplaced, hbody'], ?_⟩
    exact Builder.adds_enclosed hopening rfl hu hadds
  | loop item collection body _, ⟨hitem, hcollection, hbody⟩, tokens, ht => by
    obtain ⟨t, inside, u, rfl, hopen, hinside, hclose⟩ := Token.exists_of_map_piece ht
    obtain ⟨body', hbody', hadds⟩ := adds_piecesAll body hbody inside hinside
    have htag : t.directive? = some (.openLoop item collection.text) :=
      Token.directive?_of_piece ⟨hitem, collection, hcollection, rfl⟩ hopen
    have hu : u.directive? = some (Construct.closing .loop) :=
      Token.directive?_of_piece trivial hclose
    have hopening : t.opening? = some (.loop item ⟨collection.segments, t.location⟩) := by
      rw [Token.opening?, htag, ← Path.lenient_text hcollection]
    refine ⟨.loop item ⟨collection.segments, t.location⟩ body' t.location, ?_, ?_⟩
    · rw [unplaced, unplaced, hbody']
      rfl
    · exact Builder.adds_enclosed hopening rfl hu hadds
  | choice [] _ _, ⟨hne, _, _⟩, _, _ => absurd rfl hne
  | choice (branch :: branches) otherwise _, ⟨_, ⟨hbranch, hbranches⟩, hotherwise⟩, tokens, ht => by
    obtain ⟨front, back, rfl, hfront, hback⟩ := List.map_eq_append_iff.mp ht
    obtain ⟨final, last, rfl, hfinal, hlast⟩ := List.map_eq_append_iff.mp hback
    obtain ⟨u, rfl, hclose⟩ := List.map_eq_singleton_iff.mp hlast
    -- the first branch comes with the tag that opens the choice, the others with tags of their own
    obtain ⟨first, middle, rfl, hfirst, hmiddle⟩ := List.map_eq_append_iff.mp hfront
    obtain ⟨t, inside, condition, body', rfl, htag, hbranch', hadds⟩ :=
      adds_piecesBranch .openChoice (.inl rfl) branch hbranch first hfirst
    obtain ⟨branches', hbranches', haddsBranches⟩ :=
      adds_piecesBranches branches hbranches middle hmiddle
    obtain ⟨otherwise', hotherwise', haddsOtherwise⟩ :=
      adds_piecesOtherwise otherwise hotherwise final hfinal
    have hu : u.directive? = some .closeChoice := Token.directive?_of_piece trivial hclose
    refine ⟨_, ?_, Builder.adds_choice htag hadds haddsBranches haddsOtherwise hu⟩
    rw [unplaced, unplaced, unplacedBranches, unplacedBranches, hbranch', hbranches', hotherwise']

/-- What is written for nodes adds the nodes. -/
theorem adds_piecesAll : (nodes : List Node) → IsWellFormedAll nodes → (tokens : List Token) →
    tokens.map Token.piece = piecesAll nodes →
    ∃ nodes', unplacedAll nodes' = unplacedAll nodes ∧ Adds tokens nodes'
  | [], _, tokens, ht => ⟨[], rfl, List.map_eq_nil_iff.mp ht ▸ Builder.adds_nil⟩
  | node :: nodes, ⟨hnode, _, hnodes⟩, tokens, ht => by
    obtain ⟨front, back, rfl, hfront, hback⟩ := List.map_eq_append_iff.mp ht
    obtain ⟨node', hnode', hadds⟩ := adds_pieces node hnode front hfront
    obtain ⟨nodes', hnodes', haddsAll⟩ := adds_piecesAll nodes hnodes back hback
    refine ⟨node' :: nodes', by rw [unplacedAll, unplacedAll, hnode', hnodes'], ?_⟩
    exact hadds.append haddsAll

theorem adds_piecesBranches : (branches : List Branch) → IsWellFormedBranches branches →
    (tokens : List Token) → tokens.map Token.piece = piecesBranches .nextBranch branches →
    ∃ branches', unplacedBranches branches' = unplacedBranches branches ∧
      AddsBranches tokens branches'
  | [], _, tokens, ht => ⟨[], rfl, List.map_eq_nil_iff.mp ht ▸ Builder.addsBranches_nil⟩
  | branch :: branches, ⟨hbranch, hbranches⟩, tokens, ht => by
    obtain ⟨front, back, rfl, hfront, hback⟩ := List.map_eq_append_iff.mp ht
    obtain ⟨t, inside, condition, body', rfl, htag, hbranch', hadds⟩ :=
      adds_piecesBranch .nextBranch (.inr rfl) branch hbranch front hfront
    obtain ⟨branches', hbranches', haddsBranches⟩ :=
      adds_piecesBranches branches hbranches back hback
    refine ⟨_, ?_, Builder.addsBranches_cons htag hadds haddsBranches⟩
    rw [unplacedBranches, unplacedBranches, hbranch', hbranches']

theorem adds_piecesBranch : (opening : Text → Directive) → OpensBranch opening →
    (branch : Branch) → IsWellFormedBranch branch → (tokens : List Token) →
    tokens.map Token.piece = piecesBranch opening branch →
    ∃ t inside condition body', tokens = t :: inside ∧
      t.directive? = some (opening condition) ∧
      unplacedBranch (.mk (Condition.parse condition t.location) body' t.location) =
        unplacedBranch branch ∧
      Adds inside body'
  | opening, hopening, .mk condition body _, ⟨hcondition, hbody⟩, tokens, ht => by
    obtain ⟨t, inside, rfl, htag, hinside⟩ := List.map_eq_cons_iff.mp ht
    obtain ⟨body', hbody', hadds⟩ := adds_piecesAll body hbody inside hinside
    refine ⟨t, inside, condition.print, body', rfl,
      Token.directive?_of_piece (hopening.isWellFormed hcondition) htag, ?_, hadds⟩
    rw [unplacedBranch, unplacedBranch, hbody', Condition.parse_print hcondition]

theorem adds_piecesOtherwise : (otherwise : Option (List Node)) →
    IsWellFormedOtherwise otherwise → (tokens : List Token) →
    tokens.map Token.piece = piecesOtherwise otherwise →
    ∃ otherwise', unplacedOtherwise otherwise' = unplacedOtherwise otherwise ∧
      AddsOtherwise tokens otherwise'
  | none, _, tokens, ht => ⟨none, rfl, List.map_eq_nil_iff.mp ht ▸ Builder.addsOtherwise_none⟩
  | some body, hbody, tokens, ht => by
    obtain ⟨t, inside, rfl, htag, hinside⟩ := List.map_eq_cons_iff.mp ht
    obtain ⟨body', hbody', hadds⟩ := adds_piecesAll body hbody inside hinside
    refine ⟨some body', by rw [unplacedOtherwise, unplacedOtherwise, hbody'], ?_⟩
    exact Builder.addsOtherwise_some (Token.directive?_of_piece trivial htag) hadds

end

end Node

namespace Template

/-- **Parsing undoes printing.** A well-formed template is read back from its source, apart from the
places of its tags. -/
theorem unplaced_parse_print (t : Template) (h : t.IsWellFormed) :
    (parse t.print).unplaced = t.unplaced := by
  obtain ⟨nodes, hnodes, hadds⟩ :=
    Node.adds_piecesAll t.nodes h (Token.tokenize t.print) (map_piece_tokenize_print h)
  have hread : (Token.tokenize t.print).foldl Builder.read .empty = ⟨nodes, []⟩ :=
    (hadds .empty).trans (Builder.foldl_push_root [] nodes)
  have hparse : (parse t.print).nodes = nodes := by
    rw [parse, ofTokens, hread, Builder.finish]
    exact List.append_nil nodes
  rw [unplaced, unplaced, hparse, hnodes]

/-- A loop with a choice in a block. -/
def specimenBlock : Node :=
  .block "list"
    [.loop "item" ⟨["items"], .start⟩
      [.choice
        [.mk (.equals ⟨["item", "status"], .start⟩ "open") [.text "open" .start] .start,
          .mk (.truthy ⟨["item"], .start⟩) [] .start]
        (some [.text "none" .start]) .start] .start] .start

/-- A template in which every kind of node occurs. -/
def specimen : Template where
  nodes :=
    [.inherit "base.html" .start,
      .text "To " .start,
      .output "\x7b\x7b user.name | upper \x7d\x7d"
        (some ⟨⟨["user", "name"], .start⟩, [⟨"upper", []⟩]⟩) .start,
      .inert "\x7b% include x %\x7d" .start,
      specimenBlock]
  location := .start

theorem isWellFormed_specimenBlock : specimenBlock.IsWellFormed := by
  have hequals : Condition.IsWellFormed (.equals ⟨["item", "status"], .start⟩ "open") :=
    ⟨⟨by simp, by decide⟩, Text.isTrimmedBy_of_any rfl,
      Text.fitsTag_of_not_mem (by decide)⟩
  have htruthy : Condition.IsWellFormed (.truthy ⟨["item"], .start⟩) := ⟨by simp, by decide⟩
  have htext (s : Text) (h : s ≠ [] ∧ '\x7b' ∉ s) : Node.IsWellFormedAll [.text s .start] :=
    ⟨h, by simp, trivial⟩
  have hbranches : Node.IsWellFormedBranches
      [.mk (.equals ⟨["item", "status"], .start⟩ "open") [.text "open" .start] .start,
        .mk (.truthy ⟨["item"], .start⟩) [] .start] :=
    ⟨⟨hequals, htext "open" (by decide)⟩, ⟨htruthy, trivial⟩, trivial⟩
  refine ⟨by decide, ⟨by decide, ⟨by simp, by decide⟩, ?_⟩, by decide, trivial⟩
  exact ⟨⟨by simp, hbranches, htext "none" (by decide)⟩, by decide, trivial⟩

theorem unplaced_parse_print_specimen :
    specimen.IsWellFormed ∧
      specimen.print = "\x7b% extends \"base.html\" %\x7dTo " ++
        "\x7b\x7b user.name | upper \x7d\x7d\x7b% include x %\x7d" ++
        "\x7b% block list %\x7d\x7b% for item in items %\x7d" ++
        "\x7b% if item.status == 'open' %\x7dopen\x7b% elseif item %\x7d" ++
        "\x7b% else %\x7dnone\x7b% endif %\x7d\x7b% endfor %\x7d\x7b% endblock %\x7d" ∧
      (parse specimen.print).unplaced = specimen.unplaced := by
  have hparent : Text.IsTrimmed "base.html" ∧ Text.FitsTag "base.html" :=
    ⟨Text.isTrimmedBy_of_any rfl, Text.fitsTag_of_not_mem (by decide)⟩
  have houtput : Token.Kind.output.Encloses " user.name | upper "
      "\x7b\x7b user.name | upper \x7d\x7d" :=
    ⟨_, _, rfl, rfl, Text.stopsAt_of_not_mem (by decide)⟩
  have hinert : Token.Kind.tag.Encloses " include x " "\x7b% include x %\x7d" :=
    ⟨_, _, rfl, rfl, Text.stopsAt_of_not_mem (by decide)⟩
  have h : specimen.IsWellFormed :=
    ⟨⟨by decide, hparent⟩, by decide, ⟨by decide, by decide⟩, by decide,
      ⟨_, houtput, .start, by decide⟩, by decide, ⟨_, hinert, by decide⟩, by decide,
      isWellFormed_specimenBlock, by decide, trivial⟩
  exact ⟨h, by decide +kernel, unplaced_parse_print specimen h⟩

end Template

end PageTemplate
