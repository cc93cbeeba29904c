import PageTemplate.Proofs.Directive.Grammar

/-!
# Directives as they are written

A directive is written with one blank between its parts. What is written so is read back as it was.

## Main definitions

* `PageTemplate.Directive.print` — a directive as it is written.
* `PageTemplate.Directive.IsWellFormed` — what can be written.

## Main statements

* `PageTemplate.Directive.hasForm_print` — what is written is a form of the directive.
* `PageTemplate.Directive.classify_print` — reading gives back what was written.
* `PageTemplate.Directive.isTrimmed_print`, `PageTemplate.Directive.fitsTag_print` — what is written
  can be put into a tag.
-/

namespace PageTemplate

namespace Directive

variable {d : Directive}

/-- The keyword of the directive. -/
def keyword : Directive → Text
  | inherit _ => "extends"
  | openBlock _ => "block"
  | closeBlock => "endblock"
  | openLoop _ _ => "for"
  | closeLoop => "endfor"
  | openChoice _ => "if"
  | nextBranch _ => "elseif"
  | lastBranch => "else"
  | closeChoice => "endif"
  | unsupported => []

/-- What follows the keyword; most directives consist of the keyword alone. -/
def argument : Directive → Text
  | inherit parent => ['"'] ++ parent ++ ['"']
  | openBlock name => name
  | openLoop item collection => item ++ " in " ++ collection
  | openChoice condition => condition
  | nextBranch condition => condition
  | _ => []

/-- The directive as it is written. -/
def print (d : Directive) : Text :=
  if d.argument = [] then d.keyword else d.keyword ++ [' '] ++ d.argument

/-- A parent and a condition are there and have no blanks at their ends, and they do not end the
tag; a name and an item are words, and a collection is a path of words. -/
def IsWellFormed : Directive → Prop
  | inherit parent => parent ≠ [] ∧ parent.IsTrimmed ∧ parent.FitsTag
  | openBlock name => Text.isWord name = true
  | openLoop item collection =>
    Text.isWord item = true ∧ ∃ path : Path, path.IsWellFormed ∧ collection = path.text
  | openChoice condition => condition ≠ [] ∧ condition.IsTrimmed ∧ condition.FitsTag
  | nextBranch condition => condition ≠ [] ∧ condition.IsTrimmed ∧ condition.FitsTag
  | _ => True

theorem all_keyword (d : Directive) : d.keyword.all Text.isWordChar = true := by
  cases d <;> rfl

theorem isBlank_of_mem_keyword (d : Directive) : ∀ c ∈ d.keyword, Text.isBlank c = false :=
  fun c hc => Text.isBlank_of_isWordChar (List.all_eq_true.mp (all_keyword d) c hc)

theorem keyword_ne_nil (h : d.argument ≠ []) : d.keyword ≠ [] := by
  intro hnil
  have hempty : d.keyword.isEmpty = true := List.isEmpty_iff.mpr hnil
  cases d with
  | unsupported => exact h rfl
  | _ => exact Bool.false_ne_true hempty

theorem isTrimmed_argument (h : d.IsWellFormed) : d.argument.IsTrimmed := by
  cases d with
  | inherit parent =>
    exact Text.isTrimmedBy_append_append (Text.isTrimmedBy_of_any rfl)
      (Text.isTrimmedBy_of_any rfl) (by simp) (by simp)
  | openBlock name => exact Text.isTrimmed_of_isWord h
  | openLoop item collection =>
    obtain ⟨hitem, path, hpath, rfl⟩ := h
    exact Text.isTrimmedBy_append_append (Text.isTrimmed_of_isWord hitem)
      (Path.isTrimmed_text hpath) (Text.isWord_iff.mp hitem).1 (Path.text_ne_nil hpath)
  | openChoice condition => exact h.2.1
  | nextBranch condition => exact h.2.1
  | _ => exact Text.isTrimmedBy_of_any rfl

theorem fitsTag_argument (h : d.IsWellFormed) : d.argument.FitsTag := by
  cases d with
  | inherit parent =>
    refine Text.not_infix_append_of_not_mem_right (by decide) ?_
    exact Text.not_infix_append_of_not_mem_left (by decide) h.2.2
  | openBlock name => exact Text.fitsTag_of_not_mem (Text.not_mem_of_isWord h rfl)
  | openLoop item collection =>
    obtain ⟨hitem, path, hpath, rfl⟩ := h
    refine Text.fitsTag_of_not_mem ?_
    rw [argument, List.mem_append, List.mem_append, not_or, not_or]
    exact ⟨⟨Text.not_mem_of_isWord hitem rfl, by decide⟩, Path.not_mem_text hpath (by decide) rfl⟩
  | openChoice condition => exact h.2.2
  | nextBranch condition => exact h.2.2
  | _ => exact Text.fitsTag_of_not_mem (by decide)

theorem isTrimmed_print (h : d.IsWellFormed) : d.print.IsTrimmed := by
  have hkeyword : d.keyword.IsTrimmed := Text.isTrimmedBy_of_forall (isBlank_of_mem_keyword d)
  unfold print
  split
  · exact hkeyword
  · next hne =>
    exact Text.isTrimmedBy_append_append hkeyword (isTrimmed_argument h) (keyword_ne_nil hne) hne

theorem fitsTag_print (h : d.IsWellFormed) : d.print.FitsTag := by
  have hkeyword : '%' ∉ d.keyword :=
    fun hmem => Bool.false_ne_true (List.all_eq_true.mp (all_keyword d) '%' hmem)
  unfold print
  split
  · exact Text.fitsTag_of_not_mem hkeyword
  · refine Text.not_infix_append_of_not_mem_left ?_ (fitsTag_argument h)
    rw [List.mem_append, not_or]
    exact ⟨hkeyword, by decide⟩

/-- What is written is one of the forms of the directive. -/
theorem hasForm_print (h : d.IsWellFormed) (hd : d ≠ unsupported) : d.HasForm d.print := by
  have hgap : Text.IsGap [' '] := by decide
  have hprint (hne : d.argument ≠ []) : d.print = d.keyword ++ [' '] ++ d.argument := if_neg hne
  cases d with
  | inherit parent =>
    obtain ⟨hne, htrimmed, -⟩ := h
    have htrim : Text.trim parent = parent := Text.trim_eq_self htrimmed
    have hform : HasForm (inherit (Text.trim parent))
        ("extends" ++ [' '] ++ (['"'] ++ parent ++ ['"'])) :=
      .inherit hgap rfl (by rwa [htrim])
    rw [htrim] at hform
    rw [hprint (by simp [argument])]
    exact hform
  | openBlock name =>
    rw [hprint (Text.isWord_iff.mp h).1]
    exact .openBlock hgap h
  | openLoop item collection =>
    obtain ⟨hitem, path, hpath, rfl⟩ := h
    have hargument : argument (openLoop item path.text) =
        item ++ [' '] ++ ("in" ++ [' '] ++ path.text) := by simp [argument]
    rw [hprint (by simp [argument]), hargument]
    exact .openLoop hgap hgap hgap hitem hpath
  | openChoice condition =>
    rw [hprint h.1]
    exact .openChoice hgap h.1 h.2.1
  | nextBranch condition =>
    rw [hprint h.1]
    exact .nextBranch hgap h.1 h.2.1
  | closeBlock => exact .closeBlock
  | closeLoop => exact .closeLoop
  | lastBranch => exact .lastBranch
  | closeChoice => exact .closeChoice
  | unsupported => exact absurd rfl hd

/-- A directive is read back as it was written. -/
theorem classify_print (h : d.IsWellFormed) : classify d.print = d := by
  cases d with
  | unsupported => rfl
  | _ => exact classify_of_hasForm (hasForm_print h (by simp))

end Directive

end PageTemplate
