import PageTemplate.Directive
import PageTemplate.Proofs.Condition.Written
import PageTemplate.Proofs.Text.Words

/-!
# The grammar of directives

The keyword of a directive reaches to the first blank. What comes after it is read according to the
keyword, without the blanks around it, and where it is not what the keyword asks for, the text is
not a directive at all.

## Main definitions

* `PageTemplate.Directive.HasForm` — the forms in which a directive can be written.

## Main statements

* `PageTemplate.Directive.classify_of_hasForm` — a directive is read from each of its forms.
* `PageTemplate.Directive.classify_eq_iff` — no other text without blanks around it is a directive.
-/

namespace PageTemplate.Directive

variable {content keyword rest : Text} {d : Directive}

/-- The forms in which a directive can be written: its keyword alone, or its keyword, a gap, and
what the keyword asks for. -/
inductive HasForm : Directive → Text → Prop
  | inherit {gap inner : Text} {quote : Char} (hgap : gap.IsGap)
      (hquote : Text.isQuote quote = true) (hinner : Text.trim inner ≠ []) :
      HasForm (inherit (Text.trim inner)) ("extends" ++ gap ++ ([quote] ++ inner ++ [quote]))
  | openBlock {gap name : Text} (hgap : gap.IsGap) (hname : Text.isWord name = true) :
      HasForm (openBlock name) ("block" ++ gap ++ name)
  | closeBlock : HasForm closeBlock "endblock"
  | closeNamedBlock {gap name : Text} (hgap : gap.IsGap) (hname : Text.isWord name = true) :
      HasForm closeBlock ("endblock" ++ gap ++ name)
  | openLoop {gap before after item : Text} {collection : Path} (hgap : gap.IsGap)
      (hbefore : before.IsGap) (hafter : after.IsGap) (hitem : Text.isWord item = true)
      (hcollection : collection.IsWellFormed) :
      HasForm (openLoop item collection.text)
        ("for" ++ gap ++ (item ++ before ++ ("in" ++ after ++ collection.text)))
  | closeLoop : HasForm closeLoop "endfor"
  | openChoice {gap condition : Text} (hgap : gap.IsGap) (hne : condition ≠ [])
      (hcondition : condition.IsTrimmed) : HasForm (openChoice condition) ("if" ++ gap ++ condition)
  | nextBranch {gap condition : Text} (hgap : gap.IsGap) (hne : condition ≠ [])
      (hcondition : condition.IsTrimmed) :
      HasForm (nextBranch condition) ("elseif" ++ gap ++ condition)
  | lastBranch : HasForm lastBranch "else"
  | closeChoice : HasForm closeChoice "endif"

/-! ### What keywords ask for -/

theorem unquote?_eq_some_iff {s parent : Text} :
    unquote? s = some parent ↔
      ∃ quote inner, Text.isQuote quote = true ∧ s = [quote] ++ inner ++ [quote] ∧
        Text.trim inner = parent ∧ parent ≠ [] := by
  cases s with
  | nil => simp [unquote?]
  | cons c s =>
    simp only [unquote?, Option.ite_none_right_eq_some, Option.filter_eq_some_iff,
      Option.map_eq_some_iff, Text.dropSuffix?_eq_some_iff]
    constructor
    · rintro ⟨hquote, ⟨inner, rfl, rfl⟩, hne⟩
      exact ⟨c, inner, hquote, rfl, rfl, by simpa using hne⟩
    · rintro ⟨quote, inner, hquote, hs, rfl, hne⟩
      obtain ⟨rfl, rfl⟩ := List.cons.inj hs
      exact ⟨hquote, ⟨inner, rfl, rfl⟩, by simpa using hne⟩

theorem loop?_eq_some_iff {s : Text} (hs : s.IsTrimmed) :
    loop? s = some d ↔
      ∃ item before after, ∃ collection : Path, Text.isWord item = true ∧ before.IsGap ∧
        after.IsGap ∧ collection.IsWellFormed ∧
        s = item ++ before ++ ("in" ++ after ++ collection.text) ∧
        d = .openLoop item collection.text := by
  constructor
  · intro h
    unfold loop? at h
    split at h
    · next item link collection hwords =>
      simp only [Option.ite_none_right_eq_some, Bool.and_eq_true, beq_iff_eq, Option.some.injEq,
        Option.isSome_iff_exists, Path.parse?_eq_some_iff] at h
      obtain ⟨⟨⟨hitem, rfl⟩, path, hpath, -, htext⟩, rfl⟩ := h
      -- the three words are read off one after the other, and nothing is left
      obtain ⟨afterItem, hfirst, hwords⟩ := Text.exists_firstWord_of_words hs hwords
      obtain ⟨afterLink, hsecond, hwords⟩ :=
        Text.exists_firstWord_of_words hfirst.isTrimmed_rest hwords
      obtain ⟨rest, hthird, hwords⟩ :=
        Text.exists_firstWord_of_words hsecond.isTrimmed_rest hwords
      obtain rfl := Text.eq_nil_of_words_eq_nil hthird.isTrimmed_rest hwords
      obtain rfl := hthird.eq_of_nil
      obtain ⟨before, hbefore, rfl⟩ := hfirst.exists_gap hsecond.ne_nil
      obtain ⟨after, hafter, rfl⟩ := hsecond.exists_gap hthird.ne_nil
      have hcollection : afterLink = path.text := by
        rw [← htext, Text.trim_eq_self hthird.isTrimmed]
      rw [hcollection]
      exact ⟨item, before, after, path, hitem, hbefore, hafter, hpath, rfl, rfl⟩
    · exact absurd h (by simp)
  · rintro ⟨item, before, after, path, hitem, hbefore, hafter, hpath, rfl, rfl⟩
    have hlink : Text.IsSolid "in" := ⟨by decide, Text.forall_of_any rfl⟩
    have hthird : Text.FirstWord path.text path.text [] :=
      .alone ⟨Path.text_ne_nil hpath, Path.isBlank_of_mem_text hpath⟩
    have hsecond : Text.FirstWord ("in" ++ after ++ path.text) "in" path.text :=
      .followed hlink hafter hthird.ne_nil hthird.isTrimmed
    have hfirst := Text.FirstWord.followed (Text.isSolid_of_isWord hitem) hbefore hsecond.ne_nil
      hsecond.isTrimmed
    have hwords : Text.words (item ++ before ++ ("in" ++ after ++ path.text)) =
        [item, "in", path.text] := by
      rw [hfirst.words_eq, hsecond.words_eq, hthird.words_eq]
      rfl
    simp only [loop?, hwords, hitem, Path.isSome_parse?_text hpath]
    rfl

/-! ### The keyword -/

/-- The keyword ends at the first blank, and the gap after it does not count. -/
theorem classify_of_firstWord (h : Text.FirstWord content keyword rest) :
    classify content = classify (keyword ++ ' ' :: rest) := by
  have hcut : Text.cutWhere? Text.isBlank (keyword ++ ' ' :: rest) = some (keyword, rest) :=
    Text.cutWhere?_append h.isSolid.2 rfl rest
  cases h with
  | alone hword =>
    simp only [classify, hcut, Text.cutWhere?_eq_none hword.2]
    rfl
  | @followed _ gap _ hword hgap hne hrest =>
    obtain ⟨c, gap, rfl⟩ := List.exists_cons_of_ne_nil hgap.1
    obtain ⟨hc, hblank⟩ := List.forall_mem_cons.mp hgap.2
    have hcontent : Text.cutWhere? Text.isBlank (keyword ++ c :: gap ++ rest) =
        some (keyword, gap ++ rest) := by
      rw [List.append_assoc, List.cons_append]
      exact Text.cutWhere?_append hword.2 hc (gap ++ rest)
    have htrim : Text.trim (gap ++ rest) = Text.trim rest := by
      rw [Text.trim, Text.trim, ← List.append_nil (gap ++ rest)]
      exact Text.trimBy_append_append (List.all_eq_true.mpr hblank) rfl
    simp only [classify, hcut, hcontent, htrim]

theorem classify_append_gap (keyword : Text) {gap : Text} (hkeyword : keyword ≠ [])
    (hblank : keyword.any Text.isBlank = false) (hgap : gap.IsGap) (hne : rest ≠ [])
    (hrest : rest.IsTrimmed) :
    classify (keyword ++ gap ++ rest) = classify (keyword ++ ' ' :: rest) :=
  classify_of_firstWord (.followed ⟨hkeyword, Text.forall_of_any hblank⟩ hgap hne hrest)

/-- The words that a directive can begin with. -/
def keywords : List Text :=
  ["extends", "block", "endblock", "for", "endfor", "if", "elseif", "else", "endif"]

theorem classify_of_not_mem_keywords (hkeyword : ∀ c ∈ keyword, Text.isBlank c = false)
    (hmem : keyword ∉ keywords) (rest : Text) :
    classify (keyword ++ ' ' :: rest) = .unsupported := by
  simp only [keywords, List.mem_cons, List.not_mem_nil, or_false, not_or] at hmem
  simp only [classify, Text.cutWhere?_append hkeyword (c := ' ') rfl rest, hmem, if_false]

section Equations

variable (rest : Text)

theorem classify_extends :
    classify ("extends" ++ ' ' :: rest) =
      ((unquote? (Text.trim rest)).map inherit).getD unsupported := by
  have hcut : Text.cutWhere? Text.isBlank ("extends" ++ ' ' :: rest) =
      some (("extends" : Text), rest) := rfl
  simp only [classify, hcut, if_true]
  cases unquote? (Text.trim rest) <;> rfl

theorem classify_block :
    classify ("block" ++ ' ' :: rest) =
      if Text.isWord (Text.trim rest) then openBlock (Text.trim rest) else unsupported := rfl

theorem classify_endblock :
    classify ("endblock" ++ ' ' :: rest) =
      if (Text.trim rest).isEmpty || Text.isWord (Text.trim rest) then closeBlock
      else unsupported := rfl

theorem classify_for :
    classify ("for" ++ ' ' :: rest) = (loop? (Text.trim rest)).getD unsupported := rfl

theorem classify_endfor :
    classify ("endfor" ++ ' ' :: rest) =
      if (Text.trim rest).isEmpty then closeLoop else unsupported := rfl

theorem classify_if :
    classify ("if" ++ ' ' :: rest) =
      if (Text.trim rest).isEmpty then unsupported else openChoice (Text.trim rest) := rfl

theorem classify_elseif :
    classify ("elseif" ++ ' ' :: rest) =
      if (Text.trim rest).isEmpty then unsupported else nextBranch (Text.trim rest) := rfl

theorem classify_else :
    classify ("else" ++ ' ' :: rest) =
      if (Text.trim rest).isEmpty then lastBranch else unsupported := rfl

theorem classify_endif :
    classify ("endif" ++ ' ' :: rest) =
      if (Text.trim rest).isEmpty then closeChoice else unsupported := rfl

end Equations

/-! ### The verdict on a text -/

theorem isTrimmed_quoted {quote : Char} (hquote : Text.isQuote quote = true) (inner : Text) :
    Text.IsTrimmed ([quote] ++ inner ++ [quote]) := by
  exact Text.isTrimmedBy_append_append (Text.isTrimmed_quote hquote) (Text.isTrimmed_quote hquote)
    (by simp) (by simp)

theorem isTrimmed_loop {before after item : Text} {collection : Path}
    (hitem : Text.isWord item = true) (hcollection : collection.IsWellFormed) :
    Text.IsTrimmed (item ++ before ++ ("in" ++ after ++ collection.text)) := by
  have hback : Text.IsTrimmed ("in" ++ after ++ collection.text) :=
    Text.isTrimmedBy_append_append (Text.isTrimmedBy_of_any rfl) (Path.isTrimmed_text hcollection)
      (by decide) (Path.text_ne_nil hcollection)
  exact Text.isTrimmedBy_append_append (Text.isTrimmed_of_isWord hitem) hback
    (Text.isWord_iff.mp hitem).1 (by simp)

/-- A directive is read from each of its forms. -/
theorem classify_of_hasForm (h : d.HasForm content) : classify content = d := by
  cases h with
  | @inherit gap inner quote hgap hquote hinner =>
    have hrest := isTrimmed_quoted hquote inner
    have hunquote := unquote?_eq_some_iff.mpr ⟨quote, inner, hquote, rfl, rfl, hinner⟩
    rw [classify_append_gap "extends" (by decide) rfl hgap (by simp) hrest, classify_extends,
      Text.trim_eq_self hrest, hunquote]
    rfl
  | @openBlock gap name hgap hname =>
    have hrest : name.IsTrimmed := Text.isTrimmed_of_isWord hname
    rw [classify_append_gap "block" (by decide) rfl hgap (Text.isWord_iff.mp hname).1 hrest,
      classify_block, Text.trim_eq_self hrest, if_pos hname]
  | closeBlock => rfl
  | @closeNamedBlock gap name hgap hname =>
    have hrest : name.IsTrimmed := Text.isTrimmed_of_isWord hname
    rw [classify_append_gap "endblock" (by decide) rfl hgap (Text.isWord_iff.mp hname).1 hrest,
      classify_endblock, Text.trim_eq_self hrest, hname, Bool.or_true, if_pos rfl]
  | @openLoop gap before after item collection hgap hbefore hafter hitem hcollection =>
    have hrest : Text.IsTrimmed (item ++ before ++ ("in" ++ after ++ collection.text)) :=
      isTrimmed_loop hitem hcollection
    have hloop := (loop?_eq_some_iff hrest).mpr
      ⟨item, before, after, collection, hitem, hbefore, hafter, hcollection, rfl, rfl⟩
    rw [classify_append_gap "for" (by decide) rfl hgap (by simp) hrest, classify_for,
      Text.trim_eq_self hrest, hloop, Option.getD_some]
  | closeLoop => rfl
  | @openChoice gap condition hgap hne hrest =>
    rw [classify_append_gap "if" (by decide) rfl hgap hne hrest, classify_if,
      Text.trim_eq_self hrest, if_neg (by simpa using hne)]
  | @nextBranch gap condition hgap hne hrest =>
    rw [classify_append_gap "elseif" (by decide) rfl hgap hne hrest, classify_elseif,
      Text.trim_eq_self hrest, if_neg (by simpa using hne)]
  | lastBranch => rfl
  | closeChoice => rfl

private theorem and_of_ite {c : Prop} [Decidable c] {e : Directive}
    (h : (if c then e else unsupported) = d) (hd : d ≠ unsupported) : c ∧ e = d := by
  split at h
  · next hc => exact ⟨hc, h⟩
  · exact absurd h.symm hd

private theorem not_and_of_ite {c : Prop} [Decidable c] {e : Directive}
    (h : (if c then unsupported else e) = d) (hd : d ≠ unsupported) : ¬c ∧ e = d := by
  split at h
  · exact absurd h.symm hd
  · next hc => exact ⟨hc, h⟩

private theorem eq_some_of_getD {o : Option Directive} (h : o.getD unsupported = d)
    (hd : d ≠ unsupported) : o = some d := by
  cases o with
  | none => exact absurd h.symm hd
  | some e => exact congrArg some h

/-- What is read as a directive, and has no blanks around it, is one of the forms of the
directive. -/
theorem hasForm_of_classify (hcontent : content.IsTrimmed) (h : classify content = d)
    (hd : d ≠ unsupported) : d.HasForm content := by
  have hne : content ≠ [] := by
    rintro rfl
    exact hd h.symm
  obtain ⟨keyword, rest, hfirst⟩ := Text.exists_firstWord hcontent hne
  have htrim : Text.trim rest = rest := Text.trim_eq_self hfirst.isTrimmed_rest
  rw [classify_of_firstWord hfirst] at h
  have hkeyword : keyword ∈ keywords := by
    by_contra hmem
    exact hd (h.symm.trans (classify_of_not_mem_keywords hfirst.isSolid.2 hmem rest))
  simp only [keywords, List.mem_cons, List.not_mem_nil, or_false] at hkeyword
  rcases hkeyword with rfl | rfl | rfl | rfl | rfl | rfl | rfl | rfl | rfl
  · -- `extends`
    rw [classify_extends, htrim] at h
    obtain ⟨parent, hunquote, rfl⟩ := Option.map_eq_some_iff.mp (eq_some_of_getD h hd)
    obtain ⟨quote, inner, hquote, rfl, rfl, hinner⟩ := unquote?_eq_some_iff.mp hunquote
    obtain ⟨gap, hgap, rfl⟩ := hfirst.exists_gap (by simp)
    exact .inherit hgap hquote hinner
  · -- `block`
    rw [classify_block, htrim] at h
    obtain ⟨hname, rfl⟩ := and_of_ite h hd
    obtain ⟨gap, hgap, rfl⟩ := hfirst.exists_gap (Text.isWord_iff.mp hname).1
    exact .openBlock hgap hname
  · -- `endblock`
    rw [classify_endblock, htrim] at h
    obtain ⟨hrest, rfl⟩ := and_of_ite h hd
    rcases Bool.or_eq_true_iff.mp hrest with hnil | hname
    · rw [List.isEmpty_iff.mp hnil] at hfirst
      exact hfirst.eq_of_nil ▸ .closeBlock
    · obtain ⟨gap, hgap, rfl⟩ := hfirst.exists_gap (Text.isWord_iff.mp hname).1
      exact .closeNamedBlock hgap hname
  · -- `for`
    rw [classify_for, htrim] at h
    obtain ⟨item, before, after, collection, hitem, hbefore, hafter, hcollection, rfl, rfl⟩ :=
      (loop?_eq_some_iff hfirst.isTrimmed_rest).mp (eq_some_of_getD h hd)
    obtain ⟨gap, hgap, rfl⟩ := hfirst.exists_gap (by simp)
    exact .openLoop hgap hbefore hafter hitem hcollection
  · -- `endfor`
    rw [classify_endfor, htrim] at h
    obtain ⟨hnil, rfl⟩ := and_of_ite h hd
    rw [List.isEmpty_iff.mp hnil] at hfirst
    exact hfirst.eq_of_nil ▸ .closeLoop
  · -- `if`
    rw [classify_if, htrim] at h
    obtain ⟨hnil, rfl⟩ := not_and_of_ite h hd
    have hrest : rest ≠ [] := by simpa using hnil
    obtain ⟨gap, hgap, rfl⟩ := hfirst.exists_gap hrest
    exact .openChoice hgap hrest hfirst.isTrimmed_rest
  · -- `elseif`
    rw [classify_elseif, htrim] at h
    obtain ⟨hnil, rfl⟩ := not_and_of_ite h hd
    have hrest : rest ≠ [] := by simpa using hnil
    obtain ⟨gap, hgap, rfl⟩ := hfirst.exists_gap hrest
    exact .nextBranch hgap hrest hfirst.isTrimmed_rest
  · -- `else`
    rw [classify_else, htrim] at h
    obtain ⟨hnil, rfl⟩ := and_of_ite h hd
    rw [List.isEmpty_iff.mp hnil] at hfirst
    exact hfirst.eq_of_nil ▸ .lastBranch
  · -- `endif`
    rw [classify_endif, htrim] at h
    obtain ⟨hnil, rfl⟩ := and_of_ite h hd
    rw [List.isEmpty_iff.mp hnil] at hfirst
    exact hfirst.eq_of_nil ▸ .closeChoice

theorem not_hasForm_unsupported (content : Text) : ¬HasForm unsupported content :=
  fun h => nomatch h

/-- **The forms of directives are all that is read.** A text without blanks around it is read as a
directive exactly if it is one of its forms, and a text that is no form of any directive is not
supported. -/
theorem classify_eq_iff (hcontent : content.IsTrimmed) (d : Directive) :
    classify content = d ↔
      d.HasForm content ∨ d = unsupported ∧ ∀ e : Directive, ¬e.HasForm content := by
  constructor
  · intro h
    by_cases hd : d = unsupported
    · refine Or.inr ⟨hd, fun e he => ?_⟩
      rw [← classify_of_hasForm he, h, hd] at he
      exact not_hasForm_unsupported content he
    · exact Or.inl (hasForm_of_classify hcontent h hd)
  · rintro (h | ⟨rfl, hnone⟩)
    · exact classify_of_hasForm h
    · by_contra hd
      exact hnone _ (hasForm_of_classify hcontent rfl hd)

/-- Gaps of several blanks, one of them U+2003, and a path with a dot. -/
theorem classify_eq_iff_loop :
    let content : Text := "for\u2003ticket \t in\n board.tickets"
    let d : Directive := openLoop "ticket" "board.tickets"
    content.IsTrimmed ∧ classify content = d ∧
      (classify content = d ↔
        d.HasForm content ∨ d = unsupported ∧ ∀ e : Directive, ¬e.HasForm content) := by
  intro content d
  have h : content.IsTrimmed := by decide
  exact ⟨h, by decide, classify_eq_iff h d⟩

end PageTemplate.Directive
