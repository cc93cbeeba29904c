import PageTemplate.Proofs.Directive.Grammar
import PageTemplate.Proofs.Expression.Written
import PageTemplate.Proofs.Template.Conservation

/-!
# Strict and lenient reading of paths

The path of an output is read strictly, and so is the collection of a loop when its tag is taken for
a directive. The path that the loop then runs over, and the path of a condition, are read leniently.
Where a text can be read strictly, both readings give the same path, so a loop runs over the path
that its tag was checked for.

## Main statements

* `PageTemplate.Path.lenient_text_eq_self_iff` — which paths are read back leniently from their
  text.
* `PageTemplate.Path.lenient_of_parse?` — a path that is read strictly is also read leniently.
* `PageTemplate.Path.parse?_eq_some_iff_lenient` — when a path that is read leniently is also read
  strictly.
* `PageTemplate.Template.exists_parse?_of_mem_preorderAll` — every loop of a template runs over the
  path that is read strictly from its tag.
* `PageTemplate.Path.readers_agree` — the agreement of both readings, with the texts that can be
  read strictly.
-/

namespace PageTemplate

namespace Path

variable {p : Path} {s : Text} {location : Location}

/-! ### Lenient reading -/

theorem IsSettled.isTrimmed_text (h : p.IsSettled) : Text.IsTrimmed p.text :=
  Text.isTrimmedBy_join rfl p.segments fun s hs => (h.2 s hs).1

/-- Whatever the text is, the segments read from it can be told from their own text. -/
theorem isSettled_lenient (s : Text) (location : Location) : (lenient s location).IsSettled := by
  refine ⟨by simp [lenient, List.splitOn_ne_nil], List.forall_mem_map.mpr fun piece hpiece => ?_⟩
  have hdot : '.' ∉ piece := Text.not_mem_of_mem_splitOn hpiece
  exact ⟨Text.isTrimmedBy_trimBy Text.isBlank piece, fun hmem => hdot (Text.mem_of_mem_trimBy hmem)⟩

/-- The paths that lenient reading gives are those that it gives back. -/
theorem lenient_text_eq_self_iff : lenient p.text p.location = p ↔ p.IsSettled := by
  constructor
  · intro h
    rw [← h]
    exact isSettled_lenient p.text p.location
  · intro h
    exact lenient_of_trim_eq h (Text.trim_eq_self h.isTrimmed_text) p.location

/-- A path without segments has the same text as a path with one empty segment. -/
example (location : Location) : lenient (text ⟨[], location⟩) location = ⟨[[]], location⟩ := rfl

/-! ### Strict reading -/

/-- A path that is read strictly is the one that is read leniently. -/
theorem lenient_of_parse? (h : parse? s location = some p) : lenient s location = p := by
  obtain ⟨hp, rfl, htrim⟩ := parse?_eq_some_iff.mp h
  exact lenient_of_trim_eq hp.isSettled htrim p.location

/-- A path is read strictly exactly if it is read leniently, its segments are words, and no blanks
stand between them and the dots. -/
theorem parse?_eq_some_iff_lenient :
    parse? s location = some p ↔
      p.IsWellFormed ∧ lenient s location = p ∧ ∀ c ∈ Text.trim s, Text.isBlank c = false := by
  constructor
  · intro h
    obtain ⟨hp, -, htrim⟩ := parse?_eq_some_iff.mp h
    exact ⟨hp, lenient_of_parse? h, htrim ▸ isBlank_of_mem_text hp⟩
  · rintro ⟨hp, rfl, hblank⟩
    -- without blanks, trimming the pieces changes nothing, and they make up the text again
    have hpieces : ∀ piece ∈ (Text.trim s).splitOn '.', Text.IsTrimmed piece :=
      fun piece hpiece => Text.isTrimmedBy_of_forall fun c hc =>
        hblank c (Text.mem_of_mem_splitOn hpiece hc)
    refine parse?_eq_some_iff.mpr ⟨hp, rfl, ?_⟩
    rw [text, lenient, Text.map_trim_eq_self hpieces]
    exact (List.intercalate_splitOn '.').symm

theorem isSome_parse?_iff :
    (parse? s location).isSome = true ↔
      ∃ words : List Text, words ≠ [] ∧ (∀ word ∈ words, Text.isWord word = true) ∧
        Text.trim s = Text.join ['.'] words := by
  simp only [Option.isSome_iff_exists, parse?_eq_some_iff]
  constructor
  · rintro ⟨p, hp, -, htrim⟩
    exact ⟨p.segments, hp.1, hp.2, htrim⟩
  · rintro ⟨words, hne, hwords, htrim⟩
    exact ⟨⟨words, location⟩, ⟨hne, hwords⟩, rfl, htrim⟩

end Path

/-! ### The collections of loops -/

/-- The collection of a loop is a path of words, wherever the tag stands. -/
theorem Directive.isSome_parse?_of_classify {content item written : Text}
    (hcontent : content.IsTrimmed) (h : classify content = .openLoop item written)
    (location : Location) : (Path.parse? written location).isSome = true := by
  cases hasForm_of_classify hcontent h (by simp) with
  | openLoop _ _ _ _ hcollection => exact Path.isSome_parse?_text hcollection location

theorem Token.isTrimmed_content {t : Token} (h : t.kind = .tag) : t.content.IsTrimmed := by
  rw [content, h]
  exact Text.isTrimmedBy_trimBy Text.isBlank _

/-- What is read leniently from the tag of a loop can be read strictly. -/
theorem Token.parse?_of_openLoop {t : Token} {item written : Text}
    (h : t.directive? = some (.openLoop item written)) :
    Path.parse? written t.location = some (Path.lenient written t.location) := by
  have hcontent : t.content.IsTrimmed := isTrimmed_content (kind_of_directive? h)
  have hclassify : Directive.classify t.content = .openLoop item written :=
    (Builder.read_of_directive? (b := .empty) h).1
  obtain ⟨collection, hparse⟩ := Option.isSome_iff_exists.mp
    (Directive.isSome_parse?_of_classify hcontent hclassify t.location)
  rw [Path.lenient_of_parse? hparse, hparse]

namespace Template

variable {tokens : List Token}

/-- Every node of a template, however deep, is what one of its tokens becomes. -/
theorem exists_becomes_of_mem_preorderAll {node : Node}
    (h : node ∈ Node.preorderAll (ofTokens tokens).nodes) : ∃ t ∈ tokens, t.Becomes node := by
  have hnodes : List.Forall₂ Token.Becomes (Nesting.kept [] tokens)
      (Node.preorderAll (ofTokens tokens).nodes) :=
    Builder.becomes_foldl_read tokens .empty [] (by simp [Builder.empty]) .nil
  refine forall_mem_of_forall₂ (P := fun node => ∃ t ∈ tokens, t.Becomes node) hnodes ?_ node h
  exact fun t ht node hnode => ⟨t, (Nesting.kept_sublist [] tokens).subset ht, hnode⟩

theorem exists_parse?_of_mem_preorderAll {item : Text} {collection : Path} {body : List Node}
    {location : Location}
    (h : .loop item collection body location ∈ Node.preorderAll (ofTokens tokens).nodes) :
    ∃ t ∈ tokens, ∃ written, t.directive? = some (.openLoop item written) ∧
      location = t.location ∧ Path.parse? written location = some collection := by
  obtain ⟨t, ht, hleaf | ⟨written, hdirective, rfl, rfl⟩⟩ := exists_becomes_of_mem_preorderAll h
  · -- the node that a token is by itself has no closing tag
    have hconstruct := Node.construct?_leaf t
    rw [← hleaf] at hconstruct
    cases hconstruct
  · exact ⟨t, ht, written, hdirective, rfl, Token.parse?_of_openLoop hdirective⟩

end Template

/-! ### Both readings -/

namespace Path

/-- **Strict and lenient reading agree.** A path that is read strictly from a text is also read
leniently from it, so every loop of a template runs over the path that is read strictly from its
tag. A path of words is read back in both ways from its text with any blanks around it, and the
texts that can be read strictly are, without the blanks around them, one or more words joined by
single dots. -/
theorem readers_agree :
    (∀ (s : Text) (location : Location) (p : Path),
      parse? s location = some p → lenient s location = p) ∧
    (∀ (tokens : List Token) (item : Text) (collection : Path) (body : List Node)
      (location : Location),
      .loop item collection body location ∈
          Node.preorderAll (Template.ofTokens tokens).nodes →
        ∃ t ∈ tokens, ∃ written, t.directive? = some (.openLoop item written) ∧
          location = t.location ∧ parse? written location = some collection) ∧
    (∀ (p : Path) (padded : Text), p.IsWellFormed → Text.IsPadded Text.isBlank p.text padded →
      parse? padded p.location = some p ∧ lenient padded p.location = p) ∧
    ∀ (s : Text) (location : Location), (parse? s location).isSome = true ↔
      ∃ words : List Text, words ≠ [] ∧ (∀ word ∈ words, Text.isWord word = true) ∧
        Text.trim s = Text.join ['.'] words :=
  ⟨fun _ _ _ h => lenient_of_parse? h,
    fun _ _ _ _ _ h => Template.exists_parse?_of_mem_preorderAll h,
    fun p _ h hpadded =>
      ⟨parse?_of_isPadded h hpadded p.location, lenient_of_isPadded h hpadded p.location⟩,
    fun _ _ => isSome_parse?_iff⟩

/-- A loop within another one, over a path with a dot, and that path with a line feed and U+2003
around it. With blanks around its dot it is read leniently only. -/
theorem readers_agree_rows :
    let p : Path := ⟨["board", "rows"], ⟨1, 20, 19⟩⟩
    let padded : Text := "\n board.rows\u2003"
    let tokens : List Token :=
      [⟨.tag, "\x7b%for b in boards%\x7d", .start⟩,
        ⟨.tag, "\x7b% for r in \t board.rows %\x7d", ⟨1, 20, 19⟩⟩,
        ⟨.tag, "\x7b%endfor%\x7d", ⟨1, 49, 48⟩⟩, ⟨.tag, "\x7b%endfor%\x7d", ⟨1, 59, 58⟩⟩]
    (parse? padded p.location = some p ∧ lenient padded p.location = p) ∧
      (.loop "r" p [] p.location ∈ Node.preorderAll (Template.ofTokens tokens).nodes ∧
        ∃ t ∈ tokens, ∃ written, t.directive? = some (.openLoop "r" written) ∧
          p.location = t.location ∧ parse? written p.location = some p) ∧
      p.IsWellFormed ∧ Text.IsPadded Text.isBlank p.text padded ∧
      (∃ words : List Text, words ≠ [] ∧ (∀ word ∈ words, Text.isWord word = true) ∧
        Text.trim padded = Text.join ['.'] words) ∧
      parse? "board . rows" p.location = none ∧ lenient "board . rows" p.location = p := by
  intro p padded tokens
  have hp : p.IsWellFormed := ⟨by simp [p], by decide⟩
  have hpadded : Text.IsPadded Text.isBlank p.text padded := ⟨"\n ", "\u2003", rfl, rfl, rfl⟩
  have hread := readers_agree.2.2.1 p padded hp hpadded
  have hlenient : lenient padded p.location = p := readers_agree.1 padded p.location p hread.1
  have hwords := (readers_agree.2.2.2 padded p.location).mp (by rw [hread.1]; rfl)
  -- the tags are classified one by one, so that the tree is built without evaluating its nodes
  have hdirectives : (tokens.map fun t => Directive.classify t.content) =
      [.openLoop "b" "boards", .openLoop "r" "board.rows", .closeLoop, .closeLoop] := by decide
  simp only [tokens, List.map_cons, List.cons.injEq] at hdirectives
  obtain ⟨hopen, hopen', hclose, hclose', -⟩ := hdirectives
  have hnodes : (Template.ofTokens tokens).nodes =
      [.loop "b" (lenient "boards" .start)
        [.loop "r" (lenient "board.rows" p.location) [] p.location] .start] := by
    simp only [Template.ofTokens, tokens, List.foldl_cons, List.foldl_nil, Builder.read,
      Builder.readTag, hopen, hopen', hclose, hclose']
    rfl
  have hloop : .loop "r" p [] p.location ∈ Node.preorderAll (Template.ofTokens tokens).nodes := by
    rw [hnodes]
    exact List.mem_cons_of_mem _ List.mem_cons_self
  exact ⟨⟨hread.1, hlenient⟩, ⟨hloop, readers_agree.2.1 tokens _ _ _ _ hloop⟩, hp, hpadded, hwords,
    by decide, by decide⟩

end Path

end PageTemplate
