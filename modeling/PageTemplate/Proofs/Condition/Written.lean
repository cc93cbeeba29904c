import PageTemplate.Condition
import PageTemplate.Proofs.Node.Unplaced
import PageTemplate.Proofs.Text.Cut
import PageTemplate.Proofs.Text.Word

/-!
# Paths and conditions as they are written

A path is written as its segments with dots between them, and a condition as a path, or as a path
and a literal in quotation marks.

## Main definitions

* `PageTemplate.Condition.print` — a condition as it is written.
* `PageTemplate.Condition.HasForm` — the layouts of a condition.
* `PageTemplate.Path.IsWellFormed`, `PageTemplate.Condition.IsWellFormed` — what can be written.
* `PageTemplate.Path.IsSettled` — paths whose segments can be told from their text.

## Main statements

* `PageTemplate.Path.parse?_eq_some_iff` — which texts are paths of words.
* `PageTemplate.Path.lenient_of_trim_eq`, `PageTemplate.Condition.parse_of_hasForm` — reading gives
  back what was written.
* `PageTemplate.Condition.isWritable_of_hasForm` — what is written can be put into a tag.
-/

namespace PageTemplate

namespace Text

/-- The text has no closing delimiter of a tag in it. -/
def FitsTag (s : Text) : Prop :=
  ¬['%', '\x7d'] <:+: s

instance (s : Text) : Decidable s.FitsTag :=
  inferInstanceAs (Decidable (¬_))

theorem fitsTag_of_not_mem {s : Text} (h : '%' ∉ s) : FitsTag s := by
  rw [← List.append_nil s]
  exact not_infix_append_of_not_mem_left h (by simp)

end Text

/-! ### Paths -/

namespace Path

variable {p : Path}

/-- The path has one or more segments, all of them words; a path without segments would be written
as nothing. -/
def IsWellFormed (p : Path) : Prop :=
  p.segments ≠ [] ∧ ∀ s ∈ p.segments, Text.isWord s = true

/-- The path has one or more segments, without dots in them and without blanks at their ends, so
that its text says what they are. -/
def IsSettled (p : Path) : Prop :=
  p.segments ≠ [] ∧ ∀ s ∈ p.segments, s.IsTrimmed ∧ '.' ∉ s

theorem eq_or_isWordChar_of_mem_text (h : p.IsWellFormed) :
    ∀ c ∈ p.text, c = '.' ∨ Text.isWordChar c = true := by
  intro c hc
  rcases Text.mem_join p.segments hc with hdot | ⟨s, hs, hmem⟩
  · exact Or.inl (List.mem_singleton.mp hdot)
  · exact Or.inr ((Text.isWord_iff.mp (h.2 s hs)).2 c hmem)

theorem isBlank_of_mem_text (h : p.IsWellFormed) : ∀ c ∈ p.text, Text.isBlank c = false := by
  intro c hc
  rcases eq_or_isWordChar_of_mem_text h c hc with rfl | hword
  · rfl
  · exact Text.isBlank_of_isWordChar hword

theorem not_mem_text {c : Char} (h : p.IsWellFormed) (hdot : c ≠ '.')
    (hc : Text.isWordChar c = false) : c ∉ p.text := by
  intro hmem
  rcases eq_or_isWordChar_of_mem_text h c hmem with rfl | hword
  · exact hdot rfl
  · rw [hword] at hc
    exact Bool.false_ne_true hc.symm

theorem IsWellFormed.isSettled (h : p.IsWellFormed) : p.IsSettled :=
  ⟨h.1, fun s hs => ⟨Text.isTrimmed_of_isWord (h.2 s hs), Text.not_mem_of_isWord (h.2 s hs) rfl⟩⟩

theorem splitOn_text (h : p.IsSettled) : p.text.splitOn '.' = p.segments :=
  List.splitOn_intercalate '.' (fun s hs => (h.2 s hs).2) h.1

theorem text_ne_nil (h : p.IsWellFormed) : p.text ≠ [] := by
  intro hnil
  have hsegments : p.segments = [[]] := by rw [← splitOn_text h.isSettled, hnil, List.splitOn_nil]
  have hword : Text.isWord [] = true := h.2 [] (by simp [hsegments])
  exact Bool.false_ne_true hword

theorem isTrimmed_text (h : p.IsWellFormed) : Text.IsTrimmed p.text :=
  Text.isTrimmedBy_of_forall (isBlank_of_mem_text h)

theorem trim_of_isPadded {padded : Text} (h : p.IsWellFormed)
    (hpadded : Text.IsPadded Text.isBlank p.text padded) : Text.trim padded = p.text :=
  Text.trimBy_of_isPadded hpadded (isTrimmed_text h)

/-- A path is read back from a text that is its own but for blanks around it. -/
theorem lenient_of_trim_eq {s : Text} (h : p.IsSettled) (hs : Text.trim s = p.text)
    (location : Location) : lenient s location = ⟨p.segments, location⟩ := by
  rw [lenient, hs, splitOn_text h, Text.map_trim_eq_self fun s hs => (h.2 s hs).1]

theorem lenient_of_isPadded {padded : Text} (h : p.IsWellFormed)
    (hpadded : Text.IsPadded Text.isBlank p.text padded) (location : Location) :
    lenient padded location = ⟨p.segments, location⟩ :=
  lenient_of_trim_eq h.isSettled (trim_of_isPadded h hpadded) location

theorem lenient_text (h : p.IsWellFormed) (location : Location) :
    lenient p.text location = ⟨p.segments, location⟩ :=
  lenient_of_trim_eq h.isSettled (Text.trim_eq_self (isTrimmed_text h)) location

/-- A path is read from a text exactly if the text is that of a path of words, with blanks around
it. -/
theorem parse?_eq_some_iff {s : Text} {location : Location} :
    parse? s location = some p ↔
      p.IsWellFormed ∧ p.location = location ∧ Text.trim s = p.text := by
  constructor
  · intro h
    simp only [parse?, Option.ite_none_right_eq_some, Option.some.injEq] at h
    obtain ⟨hall, rfl⟩ := h
    exact ⟨⟨List.splitOn_ne_nil _ _, List.all_eq_true.mp hall⟩, rfl,
      (List.intercalate_splitOn '.').symm⟩
  · rintro ⟨hpath, rfl, htrim⟩
    have hall : p.segments.all Text.isWord = true := List.all_eq_true.mpr hpath.2
    simp only [parse?, htrim, splitOn_text hpath.isSettled, hall, if_true]

theorem parse?_of_isPadded {padded : Text} (h : p.IsWellFormed)
    (hpadded : Text.IsPadded Text.isBlank p.text padded) (location : Location) :
    parse? padded location = some ⟨p.segments, location⟩ :=
  parse?_eq_some_iff.mpr ⟨h, rfl, trim_of_isPadded h hpadded⟩

theorem isSome_parse?_text (h : p.IsWellFormed) (location : Location) :
    (parse? p.text location).isSome = true := by
  have hparse : parse? p.text location = some ⟨p.segments, location⟩ :=
    parse?_eq_some_iff.mpr ⟨h, rfl, Text.trim_eq_self (isTrimmed_text h)⟩
  rw [hparse, Option.isSome_some]

end Path

/-! ### Conditions -/

namespace Condition

variable {c : Condition}

/-- The condition as it is written. -/
def print : Condition → Text
  | equals path literal => path.text ++ " == '" ++ literal ++ ['\'']
  | truthy path => path.text

/-- The path is one of words. The literal neither begins nor ends with a blank or a quotation mark,
and it does not end the tag. -/
def IsWellFormed : Condition → Prop
  | equals path literal =>
    path.IsWellFormed ∧
      Text.IsTrimmedBy (fun c => Text.isBlank c || Text.isQuote c) literal ∧ literal.FitsTag
  | truthy path => path.IsWellFormed

/-- The layouts of a condition: a path, or a path, `==`, and the literal between two quotation marks
of a kind, with or without blanks between them. -/
inductive HasForm : Condition → Text → Prop
  | equals {path : Path} {literal before after : Text} {quote : Char}
      (hbefore : before.all Text.isBlank = true) (hafter : after.all Text.isBlank = true)
      (hquote : Text.isQuote quote = true) :
      HasForm (equals path literal)
        (path.text ++ before ++ "==" ++ (after ++ [quote] ++ literal ++ [quote]))
  | truthy {path : Path} : HasForm (truthy path) path.text

theorem hasForm_print (c : Condition) : c.HasForm c.print := by
  cases c with
  | truthy path => exact .truthy
  | equals path literal =>
    have hprint : print (equals path literal) =
        path.text ++ [' '] ++ "==" ++ ([' '] ++ ['\''] ++ literal ++ ['\'']) := by
      simp [print]
    rw [hprint]
    exact .equals rfl rfl rfl

/-- The literal with all that stands around it after `==`. -/
theorem isPadded_literal {literal after : Text} {quote : Char}
    (hafter : after.all Text.isBlank = true) (hquote : Text.isQuote quote = true) :
    Text.IsPadded Text.isWrapping literal (after ++ [quote] ++ literal ++ [quote]) := by
  have hwrapping : Text.isWrapping quote = true := by
    rw [Text.isWrapping, hquote, Bool.or_true]
  have hblank : ∀ c ∈ after, Text.isWrapping c = true := fun c hc => by
    rw [Text.isWrapping, List.all_eq_true.mp hafter c hc, Bool.true_or]
  refine ⟨after ++ [quote], [quote], ?_, ?_, rfl⟩
  · exact List.all_eq_true.mpr (List.forall_mem_append.mpr ⟨hblank, by simpa using hwrapping⟩)
  · simpa using hwrapping

/-- A condition is read back from each of its layouts. -/
theorem parse_of_hasForm {s : Text} (h : c.IsWellFormed) (hs : c.HasForm s) (location : Location) :
    (parse s location).unplaced = c.unplaced := by
  cases hs with
  | @truthy path =>
    have hcut : Text.cut? ['=', '='] path.text = none := by
      refine Text.cut?_eq_none_iff.mpr fun before after heq => ?_
      exact Path.not_mem_text (c := '=') h (by decide) rfl (by simp [heq])
    simp only [parse, hcut, Path.lenient_text h]
    rfl
  | @equals path literal before after quote hbefore hafter hquote =>
    obtain ⟨hpath, hliteral, -⟩ := h
    -- the first `==` is the one after the path, whatever the literal has in it
    have hcut : Text.cut? ['=', '=']
        (path.text ++ before ++ "==" ++ (after ++ [quote] ++ literal ++ [quote])) =
          some (path.text ++ before, after ++ [quote] ++ literal ++ [quote]) := by
      refine Text.cut?_eq_some_iff.mpr ⟨rfl, Text.stopsAt_of_not_mem ?_⟩
      rw [List.mem_append, not_or]
      exact ⟨Path.not_mem_text hpath (by decide) rfl, Text.not_mem_of_all hbefore rfl⟩
    have hlenient : Path.lenient (path.text ++ before) location = ⟨path.segments, location⟩ :=
      Path.lenient_of_isPadded hpath (Text.isPadded_append path.text hbefore) location
    have hunwrap : Text.unwrap (after ++ [quote] ++ literal ++ [quote]) = literal :=
      Text.unwrap_of_isPadded (isPadded_literal hafter hquote) hliteral
    simp only [parse, hcut, hunwrap, hlenient]
    rfl

/-- Every layout of a condition can be put into a tag. -/
theorem isWritable_of_hasForm {s : Text} (h : c.IsWellFormed) (hs : c.HasForm s) :
    s ≠ [] ∧ s.IsTrimmed ∧ s.FitsTag := by
  cases hs with
  | truthy =>
    exact ⟨Path.text_ne_nil h, Path.isTrimmed_text h,
      Text.fitsTag_of_not_mem (Path.not_mem_text h (by decide) rfl)⟩
  | @equals path literal before after quote hbefore hafter hquote =>
    obtain ⟨hpath, -, hliteral⟩ := h
    refine ⟨by simp, ?_, ?_⟩
    · have happend : path.text ++ before ++ "==" ++ (after ++ [quote] ++ literal ++ [quote]) =
          path.text ++ (before ++ "==" ++ (after ++ [quote] ++ literal)) ++ [quote] := by simp
      rw [happend]
      exact Text.isTrimmedBy_append_append (Path.isTrimmed_text hpath)
        (Text.isTrimmed_quote hquote) (Path.text_ne_nil hpath) (by simp)
    · have happend : path.text ++ before ++ "==" ++ (after ++ [quote] ++ literal ++ [quote]) =
          path.text ++ before ++ "==" ++ (after ++ [quote]) ++ literal ++ [quote] := by simp
      have hquotes : [quote].all Text.isQuote = true := by simpa using hquote
      rw [happend]
      refine Text.not_infix_append_of_not_mem_right (Text.not_mem_of_all hquotes rfl) ?_
      refine Text.not_infix_append_of_not_mem_left ?_ hliteral
      simp only [List.mem_append, not_or]
      exact ⟨⟨⟨Path.not_mem_text hpath (by decide) rfl, Text.not_mem_of_all hbefore rfl⟩,
        by decide⟩, Text.not_mem_of_all hafter rfl, Text.not_mem_of_all hquotes rfl⟩

/-- A condition is read back as it was written. -/
theorem parse_print (h : c.IsWellFormed) (location : Location) :
    (parse c.print location).unplaced = c.unplaced :=
  parse_of_hasForm h (hasForm_print c) location

/-- What is written for a condition can be put into a tag. -/
theorem isWritable_print (h : c.IsWellFormed) :
    c.print ≠ [] ∧ c.print.IsTrimmed ∧ c.print.FitsTag :=
  isWritable_of_hasForm h (hasForm_print c)

end Condition

end PageTemplate
