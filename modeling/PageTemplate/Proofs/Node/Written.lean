import PageTemplate.Proofs.Directive.Written
import PageTemplate.Proofs.Token.Cutting

/-!
# Trees as they are written

Each node is written with the tags that make it: texts, outputs and inert tags as they stand, the
other nodes with the directives of their kind. The lexer cuts what is written where it was put
together.

## Main definitions

* `PageTemplate.Token.IsTagOf`, `PageTemplate.Directive.HasTag` — the tags that hold a content, and
  those of a directive.
* `PageTemplate.Node.pieces`, `PageTemplate.Node.piecesAll` — the parts of a node and of nodes as
  they are written.
* `PageTemplate.Template.print` — the source of a template.
* `PageTemplate.Node.IsWellFormed`, `PageTemplate.Template.IsWellFormed` — what can be written.

## Main statements

* `PageTemplate.Template.map_piece_tokenize_print` — the tokens of the source are the parts that
  were written.
-/

namespace PageTemplate

/-! ### Tags -/

namespace Token

variable {content tag : Text}

/-- The tag has the content between its delimiters, with blanks around it or without. -/
def IsTagOf (content tag : Text) : Prop :=
  ∃ inner, Text.IsPadded Text.isBlank content inner ∧ tag = ['\x7b', '%'] ++ inner ++ ['%', '\x7d']

theorem IsTagOf.exists_encloses (h : IsTagOf content tag) (hcontent : content.FitsTag) :
    ∃ inner, Text.IsPadded Text.isBlank content inner ∧ Kind.tag.Encloses inner tag := by
  obtain ⟨inner, hpadded, rfl⟩ := h
  refine ⟨inner, hpadded, ['\x7b', '%'], ['%', '\x7d'], rfl, rfl, Text.stopsAt_pair (by decide) ?_⟩
  obtain ⟨front, back, hfront, hback, rfl⟩ := hpadded
  refine Text.not_infix_append_of_not_mem_right (Text.not_mem_of_all hback rfl) ?_
  exact Text.not_infix_append_of_not_mem_left (Text.not_mem_of_all hfront rfl) hcontent

end Token

namespace Directive

variable {d : Directive} {source : Text}

/-- The tag holds a content that is read as the directive. -/
def HasTag (d : Directive) (source : Text) : Prop :=
  ∃ content : Text, content.FitsTag ∧ content.IsTrimmed ∧ classify content = d ∧
    Token.IsTagOf content source

theorem HasTag.isCutting {rest : List (Token.Kind × Text)} (h : d.HasTag source)
    (hrest : Token.IsCutting rest) : Token.IsCutting ((.tag, source) :: rest) := by
  obtain ⟨content, hfits, -, -, htag⟩ := h
  obtain ⟨inner, -, hencloses⟩ := htag.exists_encloses hfits
  exact .of_encloses hencloses hrest

theorem HasTag.classify_content {t : Token} (h : d.HasTag t.value) (hkind : t.kind = .tag) :
    classify t.content = d := by
  obtain ⟨content, hfits, htrim, hclassify, htag⟩ := h
  obtain ⟨inner, hpadded, hencloses⟩ := htag.exists_encloses hfits
  rw [← hkind] at hencloses
  rw [Token.content_eq_trim hencloses, Text.trim, Text.trimBy_of_isPadded hpadded htrim, hclassify]

/-- The tag that holds the directive. -/
def tag (d : Directive) : Text :=
  ['\x7b', '%', ' '] ++ d.print ++ [' ', '%', '\x7d']

/-- The tag that holds the directive, as a part of a source. -/
def piece (d : Directive) : Token.Kind × Text :=
  (.tag, d.tag)

theorem hasTag_tag (h : d.IsWellFormed) : d.HasTag d.tag :=
  ⟨d.print, fitsTag_print h, isTrimmed_print h, classify_print h, [' '] ++ d.print ++ [' '],
    ⟨[' '], [' '], rfl, rfl, rfl⟩, by simp [tag]⟩

end Directive

namespace Node

/-! ### What is written -/

mutual

/-- The parts of the node as they are written. -/
def pieces : Node → List (Token.Kind × Text)
  | text content _ => [(.text, content)]
  | output source _ _ => [(.output, source)]
  | inherit parent _ => [Directive.piece (.inherit parent)]
  | block name body _ =>
    Directive.piece (.openBlock name) :: (piecesAll body ++ [Directive.piece .closeBlock])
  | loop item collection body _ =>
    Directive.piece (.openLoop item collection.text) ::
      (piecesAll body ++ [Directive.piece .closeLoop])
  | choice branches otherwise _ =>
    piecesBranches .openChoice branches ++
      (piecesOtherwise otherwise ++ [Directive.piece .closeChoice])
  | inert source _ => [(.tag, source)]

/-- The parts of the nodes as they are written. -/
def piecesAll : List Node → List (Token.Kind × Text)
  | [] => []
  | node :: nodes => pieces node ++ piecesAll nodes

/-- The parts of the branches as they are written; the first one has a directive of its own. -/
def piecesBranches : (Text → Directive) → List Branch → List (Token.Kind × Text)
  | _, [] => []
  | opening, branch :: branches =>
    piecesBranch opening branch ++ piecesBranches .nextBranch branches

/-- The parts of a branch as they are written. -/
def piecesBranch : (Text → Directive) → Branch → List (Token.Kind × Text)
  | opening, .mk condition body _ => Directive.piece (opening condition.print) :: piecesAll body

/-- The parts of the last branch of a choice as they are written. -/
def piecesOtherwise : Option (List Node) → List (Token.Kind × Text)
  | none => []
  | some body => Directive.piece .lastBranch :: piecesAll body

end

/-- Whether the node is a text. -/
def isText : Node → Bool
  | text _ _ => true
  | _ => false

mutual

/-- Texts are not empty and have no brace that opens a delimiter. Outputs and inert tags end at the
first closing delimiter, and an output has the expression of its content. What the other nodes put
into their tags are words, paths of words, and texts that do not end the tag. -/
def IsWellFormed : Node → Prop
  | text content _ => content ≠ [] ∧ '\x7b' ∉ content
  | output source expression _ =>
    ∃ inner, Token.Kind.output.Encloses inner source ∧
      ∃ location, expression = Expression.parse? (Text.trim inner) location
  | inherit parent _ => parent ≠ [] ∧ parent.IsTrimmed ∧ parent.FitsTag
  | block name body _ => Text.isWord name = true ∧ IsWellFormedAll body
  | loop item collection body _ =>
    Text.isWord item = true ∧ collection.IsWellFormed ∧ IsWellFormedAll body
  | choice branches otherwise _ =>
    branches ≠ [] ∧ IsWellFormedBranches branches ∧ IsWellFormedOtherwise otherwise
  | inert source _ =>
    ∃ inner, Token.Kind.tag.Encloses inner source ∧
      Directive.classify (Text.trim inner) = .unsupported

/-- All nodes are well-formed, and no text stands beside a text. -/
def IsWellFormedAll : List Node → Prop
  | [] => True
  | node :: nodes =>
    IsWellFormed node ∧ ¬(isText node = true ∧ nodes.head?.any isText = true) ∧
      IsWellFormedAll nodes

/-- All branches are well-formed. -/
def IsWellFormedBranches : List Branch → Prop
  | [] => True
  | branch :: branches => IsWellFormedBranch branch ∧ IsWellFormedBranches branches

/-- The condition and the nodes of the branch are well-formed. -/
def IsWellFormedBranch : Branch → Prop
  | .mk condition body _ => condition.IsWellFormed ∧ IsWellFormedAll body

/-- The nodes of the last branch of a choice, if there is one, are well-formed. -/
def IsWellFormedOtherwise : Option (List Node) → Prop
  | none => True
  | some body => IsWellFormedAll body

end

/-! ### The lexer cuts where tags were put together -/

variable {rest : List (Token.Kind × Text)}

theorem isCutting_directive {d : Directive} (h : d.IsWellFormed) (hrest : Token.IsCutting rest) :
    Token.IsCutting (d.piece :: rest) :=
  (Directive.hasTag_tag h).isCutting hrest

theorem head?_directive (d : Directive) :
    (d.piece :: rest).head?.map Prod.fst ≠ some .text := by
  simp [Directive.piece]

/-- Only a text begins with a piece of text. -/
theorem head?_pieces {node : Node} (h : node.IsWellFormed) (hnode : node.isText ≠ true) :
    (node.pieces ++ rest).head?.map Prod.fst ≠ some .text := by
  cases node with
  | text content location => exact absurd rfl hnode
  | choice branches otherwise location =>
    obtain ⟨⟨condition, body, place⟩, branches, rfl⟩ := List.exists_cons_of_ne_nil h.1
    exact head?_directive _
  | _ => simp [pieces, Directive.piece]

theorem head?_piecesAll {nodes : List Node} (h : IsWellFormedAll nodes)
    (hnodes : nodes.head?.any isText ≠ true) (hrest : rest.head?.map Prod.fst ≠ some .text) :
    (piecesAll nodes ++ rest).head?.map Prod.fst ≠ some .text := by
  cases nodes with
  | nil => exact hrest
  | cons node nodes =>
    rw [piecesAll, List.append_assoc]
    exact head?_pieces h.1 hnodes

theorem head?_piecesBranches {opening : Text → Directive} (branches : List Branch)
    (hrest : rest.head?.map Prod.fst ≠ some .text) :
    (piecesBranches opening branches ++ rest).head?.map Prod.fst ≠ some .text := by
  cases branches with
  | nil => exact hrest
  | cons branch branches =>
    obtain ⟨condition, body, location⟩ := branch
    exact head?_directive _

theorem head?_piecesOtherwise (otherwise : Option (List Node))
    (hrest : rest.head?.map Prod.fst ≠ some .text) :
    (piecesOtherwise otherwise ++ rest).head?.map Prod.fst ≠ some .text := by
  cases otherwise with
  | none => exact hrest
  | some body => exact head?_directive _

/-- The directives that begin a branch with a condition. -/
def OpensBranch (opening : Text → Directive) : Prop :=
  opening = .openChoice ∨ opening = .nextBranch

theorem OpensBranch.isWellFormed {opening : Text → Directive} {condition : Condition}
    (hopening : OpensBranch opening) (h : condition.IsWellFormed) :
    (opening condition.print).IsWellFormed := by
  rcases hopening with rfl | rfl
  · exact Condition.isWritable_print h
  · exact Condition.isWritable_print h

mutual

/-- What is written for a node is cut off where what follows it begins. -/
theorem isCutting_pieces : (node : Node) → node.IsWellFormed →
    (rest : List (Token.Kind × Text)) → Token.IsCutting rest →
    (node.isText = true → rest.head?.map Prod.fst ≠ some .text) →
    Token.IsCutting (node.pieces ++ rest)
  | text _ _, h, _, hrest, hhead => .of_not_mem h.1 h.2 (hhead rfl) hrest
  | output _ _ _, ⟨_, hencloses, _⟩, _, hrest, _ => .of_encloses hencloses hrest
  | inert _ _, ⟨_, hencloses, _⟩, _, hrest, _ => .of_encloses hencloses hrest
  | inherit _ _, h, _, hrest, _ => isCutting_directive h hrest
  | block _ body _, ⟨hname, hbody⟩, rest, hrest, _ => by
    have hclose : Token.IsCutting (Directive.closeBlock.piece :: rest) :=
      isCutting_directive trivial hrest
    rw [pieces, List.cons_append, List.append_assoc]
    exact isCutting_directive hname
      (isCutting_piecesAll body hbody _ hclose (head?_directive .closeBlock))
  | loop _ collection body _, ⟨hitem, hcollection, hbody⟩, rest, hrest, _ => by
    have hclose : Token.IsCutting (Directive.closeLoop.piece :: rest) :=
      isCutting_directive trivial hrest
    rw [pieces, List.cons_append, List.append_assoc]
    exact isCutting_directive ⟨hitem, collection, hcollection, rfl⟩
      (isCutting_piecesAll body hbody _ hclose (head?_directive .closeLoop))
  | choice branches otherwise _, ⟨_, hbranches, hotherwise⟩, rest, hrest, _ => by
    have hclose : Token.IsCutting (Directive.closeChoice.piece :: rest) :=
      isCutting_directive trivial hrest
    rw [pieces, List.append_assoc, List.append_assoc]
    exact isCutting_piecesBranches .openChoice (.inl rfl) branches hbranches _
      (isCutting_piecesOtherwise otherwise hotherwise _ hclose (head?_directive .closeChoice))
      (head?_piecesOtherwise otherwise (head?_directive .closeChoice))

theorem isCutting_piecesAll : (nodes : List Node) → IsWellFormedAll nodes →
    (rest : List (Token.Kind × Text)) → Token.IsCutting rest →
    rest.head?.map Prod.fst ≠ some .text → Token.IsCutting (piecesAll nodes ++ rest)
  | [], _, _, hrest, _ => hrest
  | node :: nodes, ⟨hnode, hbeside, hnodes⟩, rest, hrest, hhead => by
    rw [piecesAll, List.append_assoc]
    refine isCutting_pieces node hnode _ (isCutting_piecesAll nodes hnodes rest hrest hhead) ?_
    exact fun htext => head?_piecesAll hnodes (fun hnext => hbeside ⟨htext, hnext⟩) hhead

theorem isCutting_piecesBranches : (opening : Text → Directive) → OpensBranch opening →
    (branches : List Branch) → IsWellFormedBranches branches →
    (rest : List (Token.Kind × Text)) → Token.IsCutting rest →
    rest.head?.map Prod.fst ≠ some .text → Token.IsCutting (piecesBranches opening branches ++ rest)
  | _, _, [], _, _, hrest, _ => hrest
  | opening, hopening, branch :: branches, ⟨hbranch, hbranches⟩, rest, hrest, hhead => by
    rw [piecesBranches, List.append_assoc]
    exact isCutting_piecesBranch opening hopening branch hbranch _
      (isCutting_piecesBranches .nextBranch (.inr rfl) branches hbranches rest hrest hhead)
      (head?_piecesBranches branches hhead)

theorem isCutting_piecesBranch : (opening : Text → Directive) → OpensBranch opening →
    (branch : Branch) → IsWellFormedBranch branch →
    (rest : List (Token.Kind × Text)) → Token.IsCutting rest →
    rest.head?.map Prod.fst ≠ some .text → Token.IsCutting (piecesBranch opening branch ++ rest)
  | _, hopening, .mk _ body _, ⟨hcondition, hbody⟩, rest, hrest, hhead =>
    isCutting_directive (hopening.isWellFormed hcondition)
      (isCutting_piecesAll body hbody rest hrest hhead)

theorem isCutting_piecesOtherwise : (otherwise : Option (List Node)) →
    IsWellFormedOtherwise otherwise →
    (rest : List (Token.Kind × Text)) → Token.IsCutting rest →
    rest.head?.map Prod.fst ≠ some .text → Token.IsCutting (piecesOtherwise otherwise ++ rest)
  | none, _, _, hrest, _ => hrest
  | some body, hbody, rest, hrest, hhead =>
    isCutting_directive trivial (isCutting_piecesAll body hbody rest hrest hhead)

end

end Node

namespace Template

variable {t : Template}

/-- The source of the template. -/
def print (t : Template) : Text :=
  (Node.piecesAll t.nodes).flatMap Prod.snd

/-- The nodes of the template are well-formed. -/
def IsWellFormed (t : Template) : Prop :=
  Node.IsWellFormedAll t.nodes

/-- The lexer gives back the parts that were put together. -/
theorem map_piece_tokenize_print (h : t.IsWellFormed) :
    (Token.tokenize t.print).map Token.piece = Node.piecesAll t.nodes := by
  have hcutting : Token.IsCutting (Node.piecesAll t.nodes ++ []) :=
    Node.isCutting_piecesAll t.nodes h [] .nil (by simp)
  rw [List.append_nil, Token.isCutting_iff] at hcutting
  rw [Token.tokenize, Token.map_piece_place, print, hcutting]

end Template

end PageTemplate
