import PageTemplate.Proofs.Engine.Verbatim
import PageTemplate.Proofs.Template.RoundTrip

/-!
# Sources that choose between two texts

A source that consists of a choice with a condition, a text, `else` and another text has one of the
two texts as its page, and the condition decides. A literal that is compared with a value means
itself, whatever it has in it: the tag ends after it, the first `==` stands before it, and only the
quotation marks around it go.

## Main definitions

* `PageTemplate.Template.IsChoice` — the sources that choose between two texts.
* `PageTemplate.Path.valueIn?` — what a path leads to in data and globals.
* `PageTemplate.Value.shownText` — the text of a value that may be missing.

## Main statements

* `PageTemplate.Template.exists_nodes_parse` — the tree of such a source.
* `PageTemplate.Engine.renderSource_of_isChoice` — the page of such a source.
* `PageTemplate.Engine.renderSource_comparison` — a comparison with a literal means what it says.
-/

namespace PageTemplate

/-! ### Texts between tags -/

namespace Token

variable {s : Text} {ps : List (Kind × Text)} {tokens : List Token}

/-- A text as a part of a source; an empty text is no part. -/
def textPieces (s : Text) : List (Kind × Text) :=
  if s = [] then [] else [(.text, s)]

theorem flatMap_textPieces (s : Text) : (textPieces s).flatMap Prod.snd = s := by
  by_cases hs : s = []
  · rw [textPieces, if_pos hs, hs, List.flatMap_nil]
  · rw [textPieces, if_neg hs, List.flatMap_singleton]

theorem kind_of_mem_textPieces {p : Kind × Text} (h : p ∈ textPieces s) : p.1 = .text := by
  unfold textPieces at h
  split at h
  · cases h
  · rw [List.mem_singleton.mp h]

theorem IsCutting.textPieces_append (hs : '\x7b' ∉ s) (hhead : ps.head?.map Prod.fst ≠ some .text)
    (hps : IsCutting ps) : IsCutting (textPieces s ++ ps) := by
  unfold textPieces
  split
  · exact hps
  · next hne => exact .of_not_mem hne hs hhead hps

theorem kind_of_map_piece (h : tokens.map piece = textPieces s) : ∀ t ∈ tokens, t.kind = .text :=
  fun _ ht => kind_of_mem_textPieces (h ▸ List.mem_map_of_mem ht)

theorem kind_ne_tag_of_map_piece (h : tokens.map piece = textPieces s) :
    ∀ t ∈ tokens, t.kind ≠ .tag := by
  intro t ht
  rw [kind_of_map_piece h t ht]
  decide

/-- The nodes of a text between tags have the text. -/
theorem renderAll_leaf_of_map_piece {scope : Scope} (h : tokens.map piece = textPieces s)
    (hscope : scope.items = []) : (Node.renderAll (tokens.map leaf) scope).1 = s := by
  rw [Node.renderAll_map_leaf_fst (fun t ht => .inl (kind_of_map_piece h t ht)) hscope,
    ← flatMap_map_piece, h, flatMap_textPieces]

end Token

/-! ### Choices between two texts -/

/-- The place of a path does not matter for what it leads to. -/
theorem Condition.holds_unplaced (s : Scope) (c : Condition) : c.unplaced.holds s = c.holds s := by
  cases c <;> rfl

namespace Template

variable {c : Condition} {yes no source opening middle closing condition : Text}

/-- The parts of a choice between two texts. -/
def choicePieces (opening yes middle no closing : Text) : List (Token.Kind × Text) :=
  ((.tag, opening) :: Token.textPieces yes) ++
    ((.tag, middle) :: (Token.textPieces no ++ [(.tag, closing)]))

theorem flatMap_choicePieces (opening yes middle no closing : Text) :
    (choicePieces opening yes middle no closing).flatMap Prod.snd =
      opening ++ yes ++ middle ++ no ++ closing := by
  simp [choicePieces, Token.flatMap_textPieces]

theorem map_piece_tokenize_choice (hopening : (Directive.openChoice condition).HasTag opening)
    (hmiddle : Directive.lastBranch.HasTag middle) (hclosing : Directive.closeChoice.HasTag closing)
    (hyes : '\x7b' ∉ yes) (hno : '\x7b' ∉ no) :
    (Token.tokenize (opening ++ yes ++ middle ++ no ++ closing)).map Token.piece =
      choicePieces opening yes middle no closing := by
  have hcutting : Token.IsCutting (choicePieces opening yes middle no closing) := by
    refine hopening.isCutting (.textPieces_append hyes (by simp) ?_)
    exact hmiddle.isCutting (.textPieces_append hno (by simp) (hclosing.isCutting .nil))
  rw [Token.tokenize, Token.map_piece_place, ← flatMap_choicePieces,
    Token.isCutting_iff.mp hcutting]

/-- The tags make a choice with one condition, and in its branches there are texts only. -/
theorem exists_nodes_parse (hopening : (Directive.openChoice condition).HasTag opening)
    (hmiddle : Directive.lastBranch.HasTag middle) (hclosing : Directive.closeChoice.HasTag closing)
    (hyes : '\x7b' ∉ yes) (hno : '\x7b' ∉ no) :
    ∃ (location : Location) (front back : List Token),
      (parse (opening ++ yes ++ middle ++ no ++ closing)).nodes =
        [.choice [.mk (Condition.parse condition location) (front.map Token.leaf) location]
          (some (back.map Token.leaf)) location] ∧
      front.map Token.piece = Token.textPieces yes ∧
      back.map Token.piece = Token.textPieces no := by
  obtain ⟨first, second, htokens, hfirst, hsecond⟩ := List.map_eq_append_iff.mp
    (map_piece_tokenize_choice hopening hmiddle hclosing hyes hno)
  obtain ⟨t, front, rfl, ht, hfront⟩ := List.map_eq_cons_iff.mp hfirst
  obtain ⟨u, back, v, rfl, hu, hback, hv⟩ := Token.exists_of_map_piece hsecond
  have hyesAdds : Builder.Adds front (front.map Token.leaf) :=
    Builder.adds_map_leaf (Token.kind_ne_tag_of_map_piece hfront)
  have hnoAdds : Builder.Adds back (back.map Token.leaf) :=
    Builder.adds_map_leaf (Token.kind_ne_tag_of_map_piece hback)
  have hadds : Builder.Adds (t :: front ++ [] ++ (u :: back ++ [v]))
      [.choice [.mk (Condition.parse condition t.location) (front.map Token.leaf) t.location]
        (some (back.map Token.leaf)) t.location] :=
    Builder.adds_choice (Token.directive?_of_hasTag hopening ht) hyesAdds Builder.addsBranches_nil
      (Builder.addsOtherwise_some (Token.directive?_of_hasTag hmiddle hu) hnoAdds)
      (Token.directive?_of_hasTag hclosing hv)
  refine ⟨t.location, front, back, ?_, hfront, hback⟩
  rw [List.append_nil] at hadds
  rw [parse, ofTokens, htokens, ← List.cons_append, hadds, Builder.finish_foldl_push]
  rfl

/-- The source is a choice between two texts: `if` with the condition, the text for when it holds,
`else`, the text for when it does not, and `endif`. -/
inductive IsChoice (c : Condition) (yes no : Text) : Text → Prop
  | intro {condition gap opening middle closing : Text} (hcondition : c.HasForm condition)
      (hgap : gap.IsGap) (hopening : Token.IsTagOf ("if" ++ gap ++ condition) opening)
      (hmiddle : Token.IsTagOf "else" middle) (hclosing : Token.IsTagOf "endif" closing) :
      IsChoice c yes no (opening ++ yes ++ middle ++ no ++ closing)

/-- The content of an `if` tag may hold anything but the end of a tag. -/
theorem hasTag_if {gap : Text} (hc : c.IsWellFormed) (hcondition : c.HasForm condition)
    (hgap : gap.IsGap) (hopening : Token.IsTagOf ("if" ++ gap ++ condition) opening) :
    (Directive.openChoice condition).HasTag opening := by
  obtain ⟨hne, htrim, hfits⟩ := Condition.isWritable_of_hasForm hc hcondition
  have hkeyword : '%' ∉ "if" ++ gap := by
    rw [List.mem_append, not_or]
    exact ⟨by decide, Text.not_mem_of_all (List.all_eq_true.mpr hgap.2) rfl⟩
  refine ⟨"if" ++ gap ++ condition, Text.not_infix_append_of_not_mem_left hkeyword hfits, ?_,
    Directive.classify_of_hasForm (.openChoice hgap hne htrim), hopening⟩
  exact Text.isTrimmedBy_append_append (Text.isTrimmedBy_of_any rfl) htrim (by decide) hne

theorem hasTag_keyword {d : Directive} {keyword : Text} (hd : d.HasForm keyword)
    (hkeyword : keyword.all Text.isWordChar = true) (h : Token.IsTagOf keyword source) :
    d.HasTag source :=
  ⟨keyword, Text.fitsTag_of_not_mem (Text.not_mem_of_all hkeyword rfl),
    Text.isTrimmedBy_of_forall fun c hc =>
      Text.isBlank_of_isWordChar (List.all_eq_true.mp hkeyword c hc),
    Directive.classify_of_hasForm hd, h⟩

/-- A choice between two texts names no parent, and its page is one of the two. -/
theorem render_parse_of_isChoice (hc : c.IsWellFormed) (hyes : '\x7b' ∉ yes) (hno : '\x7b' ∉ no)
    (h : IsChoice c yes no source) (globals : Entries Value) (data : Value) :
    (parse source).parent? = none ∧
      (parse source).render globals data =
        if c.holds (Scope.ofData globals data) then yes else no := by
  obtain @⟨condition, gap, opening, middle, closing, hcondition, hgap, hopening, hmiddle,
    hclosing⟩ := h
  obtain ⟨location, front, back, hnodes, hfront, hback⟩ :=
    exists_nodes_parse (hasTag_if hc hcondition hgap hopening)
      (hasTag_keyword .lastBranch rfl hmiddle) (hasTag_keyword .closeChoice rfl hclosing) hyes hno
  have hyesParent : Node.parentOf? (front.map Token.leaf) = none :=
    Node.parentOf?_map_leaf (Token.kind_ne_tag_of_map_piece hfront)
  have hnoParent : Node.parentOf? (back.map Token.leaf) = none :=
    Node.parentOf?_map_leaf (Token.kind_ne_tag_of_map_piece hback)
  have hholds : (Condition.parse condition location).holds (Scope.ofData globals data) =
      c.holds (Scope.ofData globals data) := by
    rw [← Condition.holds_unplaced, Condition.parse_of_hasForm hc hcondition,
      Condition.holds_unplaced]
  constructor
  · simp only [parent?, hnodes, Node.parentOf?, Node.parent?, Node.parentOfBranches?,
      Node.parentOfBranch?, Node.parentOfOtherwise?, hyesParent, hnoParent, Option.or_none]
  · rw [render, hnodes, Node.renderAll_cons_fst, Node.render_choice_fst]
    simp only [Node.renderBranches?, Branch.condition, hholds, Node.renderAll, List.append_nil]
    split
    · exact Token.renderAll_leaf_of_map_piece hfront rfl
    · exact Token.renderAll_leaf_of_map_piece hback rfl

end Template

/-! ### Comparisons with a literal -/

/-- What a path leads to: its first segment is looked up in the data, and if the data has no entry
of that name in the globals, and the other segments select fields. -/
def Path.valueIn? (globals : Entries Value) (data : Value) (p : Path) : Option Value :=
  ((Entries.get? data.entries p.head).or (Entries.get? globals p.head)).bind fun v =>
    p.segments.tail.foldlM Value.field? v

theorem Scope.resolve?_ofData (globals : Entries Value) (data : Value) {p : Path}
    (h : p.segments ≠ []) :
    (ofData globals data).resolve? p.segments = p.valueIn? globals data := by
  obtain ⟨segments, location⟩ := p
  obtain ⟨name, fields, rfl⟩ := List.exists_cons_of_ne_nil h
  simp [resolve?, lookup?, topLevel?, ofData, Path.valueIn?, Path.head]

/-- The text that a value is compared by; where there is no value it is empty. -/
def Value.shownText (value : Option Value) : Text :=
  value.elim [] Value.text

theorem Value.shownText_eq_nil {value : Option Value}
    (h : ∀ v ∈ value, v = .null ∨ v = .bool false ∨ v.isContainer = true) :
    shownText value = [] := by
  cases value with
  | none => rfl
  | some v =>
    rcases h v rfl with rfl | rfl | hcontainer
    · rfl
    · rfl
    · cases v with
      | array => rfl
      | object => rfl
      | _ => cases hcontainer

theorem Condition.holds_equals_iff {s : Scope} {path : Path} {literal : Text} :
    (equals path literal).holds s = true ↔
      Value.shownText (s.resolve? path.segments) = literal := by
  rw [holds, beq_iff_eq]
  cases s.resolve? path.segments <;> rfl

namespace Engine

variable {m : Type → Type} [Monad m] [LawfulMonad m] [Files m]

theorem renderSource_of_isChoice (e : Engine) (data : Value) {c : Condition}
    {yes no source : Text} (hc : c.IsWellFormed) (hyes : '\x7b' ∉ yes) (hno : '\x7b' ∉ no)
    (h : Template.IsChoice c yes no source) :
    (e.renderSource source data : m Text) =
      pure (if c.holds (Scope.ofData e.globals data) then yes else no) := by
  obtain ⟨hparent, hrender⟩ :=
    Template.render_parse_of_isChoice hc hyes hno h e.globals data
  rw [renderSource, renderTemplate, Loader.inherit_of_parent?_none e.loader hparent, pure_bind,
    hrender]

/-- **A comparison means what it says.** The page of a choice between two texts, with a comparison
of a path and a literal as its condition, is the first text if the text of the value is the literal,
and else the second. The text of null, of false, of an array or object, and of no value is empty. -/
theorem renderSource_comparison (e : Engine) (data : Value) {path : Path}
    {literal yes no source : Text} (hc : (Condition.equals path literal).IsWellFormed)
    (hyes : '\x7b' ∉ yes) (hno : '\x7b' ∉ no)
    (h : Template.IsChoice (.equals path literal) yes no source) :
    let value := path.valueIn? e.globals data
    (e.renderSource source data : m Text) =
        pure (if Value.shownText value = literal then yes else no) ∧
      ((∀ v ∈ value, v = .null ∨ v = .bool false ∨ v.isContainer = true) →
        (e.renderSource source data : m Text) = pure (if literal = [] then yes else no)) := by
  intro value
  have hpage : (e.renderSource source data : m Text) =
      pure (if Value.shownText value = literal then yes else no) := by
    have hvalue : (Scope.ofData e.globals data).resolve? path.segments = value :=
      Scope.resolve?_ofData e.globals data hc.1.1
    simp only [renderSource_of_isChoice e data hc hyes hno h, Condition.holds_equals_iff, hvalue]
  refine ⟨hpage, fun hempty => ?_⟩
  simp only [hpage, Value.shownText_eq_nil hempty, eq_comm]

/-- A literal with `==`, both quotation marks, a line feed and delimiters in it, in a source with
blanks of several kinds. It is compared with itself and with an array. -/
theorem renderSource_comparison_delimiters :
    let e := ofLoader ⟨⟨"templates"⟩, Loader.defaultExtension⟩
    let path : Path := ⟨["ticket", "note"], .start⟩
    let literal : Text := "a == 'b' \"c\n\x7b\x7b d \x7d\x7d \x7b% endif % e"
    let source : Text := "\x7b%if\tticket.note== \n\"" ++ literal ++
      "\"\u2003%\x7dyes %\x7d\x7b%else  %\x7dno\x7b% endif%\x7d"
    let data (value : Value) : Value := .object [("ticket", .object [("note", value)])]
    ((Condition.equals path literal).IsWellFormed ∧
      Template.IsChoice (.equals path literal) "yes %\x7d" "no" source) ∧
      (e.renderSource source (data (.string literal)) : StateM Store Text) = pure "yes %\x7d" ∧
      (e.renderSource source (data (.array [])) : StateM Store Text) = pure "no" := by
  intro e path literal source data
  have hc : (Condition.equals path literal).IsWellFormed :=
    ⟨⟨by decide, by decide⟩, by decide, by decide +kernel⟩
  let condition : Text := "ticket.note== \n\"" ++ literal ++ "\""
  let opening : Text := "\x7b%if\tticket.note== \n\"" ++ literal ++ "\"\u2003%\x7d"
  have hcondition : (Condition.equals path literal).HasForm condition :=
    @Condition.HasForm.equals path literal [] " \n" '"' rfl rfl rfl
  have hgap : Text.IsGap ['\t'] := by decide
  have hopening : Token.IsTagOf ("if" ++ ['\t'] ++ condition) opening :=
    ⟨_, ⟨[], "\u2003", rfl, rfl, rfl⟩, rfl⟩
  have hmiddle : Token.IsTagOf "else" "\x7b%else  %\x7d" := ⟨_, ⟨[], "  ", rfl, rfl, rfl⟩, rfl⟩
  have hclosing : Token.IsTagOf "endif" "\x7b% endif%\x7d" := ⟨_, ⟨[' '], [], rfl, rfl, rfl⟩, rfl⟩
  have hsource : source =
      opening ++ "yes %\x7d" ++ "\x7b%else  %\x7d" ++ "no" ++ "\x7b% endif%\x7d" := by
    decide +kernel
  have h : Template.IsChoice (.equals path literal) "yes %\x7d" "no" source :=
    hsource ▸ .intro hcondition hgap hopening hmiddle hclosing
  refine ⟨⟨hc, h⟩, ?_, ?_⟩
  · rw [(renderSource_comparison e _ hc (by decide) (by decide) h).1]
    rfl
  · refine (renderSource_comparison e _ hc (by decide) (by decide) h).2 fun v hv => ?_
    have hvalue : path.valueIn? e.globals (data (.array [])) = some (.array []) := rfl
    rw [← Option.some.inj (hvalue.symm.trans hv)]
    exact .inr (.inr rfl)

end Engine

end PageTemplate
