import Mathlib.Data.List.Forall2
import PageTemplate.Expression
import PageTemplate.Proofs.Condition.Written
import PageTemplate.Proofs.Text.Split

/-!
# Expressions as they are written

An expression is written as its path and its filters with vertical bars between them, and a filter
as its name, or as its name and its arguments in parentheses. Blanks may stand around all of these,
and around an argument quotation marks as well.

## Main definitions

* `PageTemplate.Filter.HasForm`, `PageTemplate.Expression.HasForm` — the ways in which a filter and
  an expression can be written.
* `PageTemplate.Filter.IsWellFormed`, `PageTemplate.Expression.IsWellFormed` — what can be written.

## Main statements

* `PageTemplate.Filter.parse_of_hasForm` — a filter is read back from whatever way it is written.
* `PageTemplate.Expression.parse?_eq_none_iff` — contents that are no expression.
* `PageTemplate.Expression.parse?_round_trip` — an expression is read back from whatever way it is
  written, and a content is no expression unless a path of words begins it.
-/

namespace PageTemplate

/-! ### Lists of pieces -/

section Pieces

variable {α β : Type} {R : α → β → Prop} {as : List α} {bs : List β}

/-- What is read from each piece is what the piece was made from. -/
theorem map_eq_of_forall₂ {g : β → α} (h : List.Forall₂ R as bs)
    (hg : ∀ a ∈ as, ∀ b, R a b → g b = a) : bs.map g = as := by
  induction h with
  | nil => rfl
  | cons hab _ ih =>
    obtain ⟨hhead, htail⟩ := List.forall_mem_cons.mp hg
    rw [List.map_cons, hhead _ hab, ih htail]

theorem forall_mem_of_forall₂ {P : β → Prop} (h : List.Forall₂ R as bs)
    (hP : ∀ a ∈ as, ∀ b, R a b → P b) : ∀ b ∈ bs, P b := by
  induction h with
  | nil => simp
  | cons hab _ ih =>
    obtain ⟨hhead, htail⟩ := List.forall_mem_cons.mp hP
    exact List.forall_mem_cons.mpr ⟨hhead _ hab, ih htail⟩

end Pieces

/-! ### Filters -/

namespace Filter

variable {f : Filter} {s : Text} {args pieces : List Text}

/-- An argument is there, does not end where the next one or the filter ends, and neither begins nor
ends with a blank or a quotation mark. -/
def IsArgument (arg : Text) : Prop :=
  arg ≠ [] ∧ '|' ∉ arg ∧ ',' ∉ arg ∧ Text.IsTrimmedBy Text.isWrapping arg

instance (arg : Text) : Decidable (IsArgument arg) :=
  inferInstanceAs (Decidable (_ ∧ _))

/-- The name is there, has no blanks at its ends, and does not end where the arguments begin or the
filter ends. -/
def IsWellFormed (f : Filter) : Prop :=
  f.name ≠ [] ∧ f.name.IsTrimmed ∧ '|' ∉ f.name ∧ '(' ∉ f.name ∧ ∀ arg ∈ f.args, IsArgument arg

instance (f : Filter) : Decidable f.IsWellFormed :=
  inferInstanceAs (Decidable (_ ∧ _))

/-- The ways in which a filter can be written: a name with blanks around it, or a name and arguments
between parentheses, with blanks around the name and the whole, and with blanks and quotation marks
around each argument. -/
inductive HasForm : Filter → Text → Prop
  | bare {name s : Text} (hs : Text.IsPadded Text.isBlank name s) : HasForm ⟨name, []⟩ s
  | call {name gap s : Text} {args pieces : List Text} (hgap : gap.all Text.isBlank = true)
      (hpieces : List.Forall₂ (Text.IsPadded Text.isWrapping) args pieces)
      (hs : Text.IsPadded Text.isBlank
        (name ++ gap ++ ['('] ++ Text.join [','] pieces ++ [')']) s) :
      HasForm ⟨name, args⟩ s

theorem parseArgs_join (hargs : ∀ arg ∈ args, IsArgument arg)
    (hpieces : List.Forall₂ (Text.IsPadded Text.isWrapping) args pieces) :
    parseArgs (Text.join [','] pieces) = args := by
  cases hpieces with
  | nil => rfl
  | @cons arg piece args pieces hpiece hpieces =>
    have hall : List.Forall₂ (Text.IsPadded Text.isWrapping) (arg :: args) (piece :: pieces) :=
      .cons hpiece hpieces
    have hsplit : (Text.join [','] (piece :: pieces)).splitOn ',' = piece :: pieces :=
      List.splitOn_intercalate ','
        (forall_mem_of_forall₂ hall fun a ha b hb =>
          Text.not_mem_of_isPadded hb (hargs a ha).2.2.1 rfl) (by simp)
    have hmap : (piece :: pieces).map Text.unwrap = arg :: args :=
      map_eq_of_forall₂ hall fun a ha b hb => Text.unwrap_of_isPadded hb (hargs a ha).2.2.2
    rw [parseArgs, hsplit, hmap, List.filter_eq_self]
    exact fun a ha => by simpa using (hargs a ha).1

theorem isTrimmed_call {name gap inner : Text} (hne : name ≠ []) (hname : name.IsTrimmed) :
    Text.IsTrimmed (name ++ gap ++ ['('] ++ inner ++ [')']) := by
  have hends : Text.IsTrimmed (name ++ (gap ++ ['('] ++ inner) ++ [')']) :=
    Text.isTrimmedBy_append_append hname (Text.isTrimmedBy_of_any rfl) hne (by simp)
  simpa using hends

theorem cutWhere?_call {name gap : Text} (hname : '(' ∉ name) (hgap : gap.all Text.isBlank = true)
    (inner : Text) :
    Text.cutWhere? (· == '(') (name ++ gap ++ ['('] ++ inner ++ [')']) =
      some (name ++ gap, inner ++ [')']) := by
  have hfront : '(' ∉ name ++ gap :=
    Text.not_mem_of_isPadded (Text.isPadded_append name hgap) hname rfl
  have hclass : ∀ c ∈ name ++ gap, (c == '(') = false := by
    intro c hc
    rw [beq_eq_false_iff_ne]
    rintro rfl
    exact hfront hc
  rw [List.append_assoc, List.append_assoc, List.singleton_append]
  exact Text.cutWhere?_append hclass (beq_self_eq_true '(') _

/-- A filter is read back from whatever way it is written. -/
theorem parse_of_hasForm (h : f.IsWellFormed) (hform : f.HasForm s) : parse s = f := by
  cases hform with
  | @bare name s hs =>
    obtain ⟨-, hname, -, hparen, -⟩ := h
    have htrim : Text.trim s = name := Text.trimBy_of_isPadded hs hname
    have hcut : Text.cutWhere? (· == '(') name = none :=
      Text.cutWhere?_eq_none fun c hc => beq_eq_false_iff_ne.mpr (ne_of_mem_of_not_mem hc hparen)
    simp only [parse, htrim, hcut]
  | @call name gap s args pieces hgap hpieces hs =>
    obtain ⟨hne, hname, -, hparen, hargs⟩ := h
    have htrim : Text.trim s = name ++ gap ++ ['('] ++ Text.join [','] pieces ++ [')'] :=
      Text.trimBy_of_isPadded hs (isTrimmed_call hne hname)
    have hdrop : Text.dropSuffix? [')'] (Text.join [','] pieces ++ [')']) =
        some (Text.join [','] pieces) := Text.dropSuffix?_eq_some_iff.mpr rfl
    have hread : Text.trim (name ++ gap) = name :=
      Text.trimBy_of_isPadded (Text.isPadded_append name hgap) hname
    simp only [parse, htrim, cutWhere?_call hparen hgap, hdrop, Option.getD_some, hread,
      parseArgs_join hargs hpieces]

theorem parse_trim (s : Text) : parse (Text.trim s) = parse s := by
  rw [parse, Text.trim_trim]
  rfl

/-- A filter that is written is not left out as empty. -/
theorem trim_ne_nil_of_hasForm (h : f.IsWellFormed) (hform : f.HasForm s) : Text.trim s ≠ [] := by
  intro hnil
  have hparse : parse (Text.trim s) = f := by rw [parse_trim, parse_of_hasForm h hform]
  rw [hnil] at hparse
  exact h.1 (hparse ▸ rfl)

/-- A filter does not end at a bar within it. -/
theorem bar_not_mem_of_hasForm (h : f.IsWellFormed) (hform : f.HasForm s) : '|' ∉ s := by
  cases hform with
  | bare hs => exact Text.not_mem_of_isPadded hs h.2.2.1 rfl
  | @call name gap s args pieces hgap hpieces hs =>
    obtain ⟨-, -, hname, -, hargs⟩ := h
    have hpiece : ∀ piece ∈ pieces, '|' ∉ piece :=
      forall_mem_of_forall₂ hpieces fun a ha b hb =>
        Text.not_mem_of_isPadded hb (hargs a ha).2.1 rfl
    have hfront : '|' ∉ name ++ gap :=
      Text.not_mem_of_isPadded (Text.isPadded_append name hgap) hname rfl
    have hjoin : '|' ∉ Text.join [','] pieces := by
      intro hmem
      rcases Text.mem_join pieces hmem with hcomma | ⟨piece, hmem, hbar⟩
      · exact absurd hcomma (by decide)
      · exact hpiece piece hmem hbar
    refine Text.not_mem_of_isPadded hs ?_ rfl
    simp only [List.mem_append, not_or] at hfront ⊢
    exact ⟨⟨⟨hfront, by decide⟩, hjoin⟩, by decide⟩

end Filter

/-! ### Expressions -/

namespace Expression

variable {e : Expression} {s : Text} {location : Location}

/-- The path and the filters can be written. -/
def IsWellFormed (e : Expression) : Prop :=
  e.path.IsWellFormed ∧ ∀ f ∈ e.filters, f.IsWellFormed

/-- The ways in which an expression can be written: its path, with blanks around it, and its
filters, with bars between them. -/
def HasForm (e : Expression) (s : Text) : Prop :=
  ∃ first pieces, Text.IsPadded Text.isBlank e.path.text first ∧
    List.Forall₂ Filter.HasForm e.filters pieces ∧ s = Text.join ['|'] (first :: pieces)

theorem splitOn_of_hasForm {first : Text} {pieces : List Text} (h : e.IsWellFormed)
    (hfirst : Text.IsPadded Text.isBlank e.path.text first)
    (hpieces : List.Forall₂ Filter.HasForm e.filters pieces) :
    (Text.join ['|'] (first :: pieces)).splitOn '|' = first :: pieces := by
  refine List.splitOn_intercalate '|' (List.forall_mem_cons.mpr ⟨?_, ?_⟩) (by simp)
  · exact Text.not_mem_of_isPadded hfirst (Path.not_mem_text h.1 (by decide) rfl) rfl
  · exact forall_mem_of_forall₂ hpieces fun f hf piece hpiece =>
      Filter.bar_not_mem_of_hasForm (h.2 f hf) hpiece

/-- An expression is read back from whatever way it is written. -/
theorem parse?_of_hasForm (h : e.IsWellFormed) (hform : e.HasForm s) (location : Location) :
    parse? s location = some ⟨⟨e.path.segments, location⟩, e.filters⟩ := by
  obtain ⟨first, pieces, hfirst, hpieces, rfl⟩ := hform
  have hpath : Path.parse? first location = some ⟨e.path.segments, location⟩ :=
    Path.parse?_of_isPadded h.1 hfirst location
  have hfilter : ((pieces.map Text.trim).filter fun part => !part.isEmpty) =
      pieces.map Text.trim := by
    refine List.filter_eq_self.mpr (List.forall_mem_map.mpr ?_)
    exact forall_mem_of_forall₂ hpieces fun f hf piece hpiece => by
      simpa using Filter.trim_ne_nil_of_hasForm (h.2 f hf) hpiece
  have hmap : (pieces.map Text.trim).map Filter.parse = e.filters := by
    rw [List.map_map]
    exact map_eq_of_forall₂ hpieces fun f hf piece hpiece => by
      rw [Function.comp_apply, Filter.parse_trim, Filter.parse_of_hasForm (h.2 f hf) hpiece]
  rw [parse?, splitOn_of_hasForm h hfirst hpieces]
  simp only [hpath, hfilter, hmap, Option.map_some]

/-- A content is no expression exactly if what stands before its first bar is no path of words. -/
theorem parse?_eq_none_iff :
    parse? s location = none ↔
      ¬∃ p : Path, p.IsWellFormed ∧ Text.trim (s.takeWhile (· != '|')) = p.text := by
  obtain ⟨rest, hsplit⟩ := Text.exists_splitOn_eq_cons '|' s
  simp only [parse?, hsplit]
  rw [Option.map_eq_none_iff, Option.eq_none_iff_forall_ne_some]
  simp only [ne_eq, Path.parse?_eq_some_iff]
  constructor
  · rintro hnone ⟨p, hp, htext⟩
    exact hnone ⟨p.segments, location⟩ ⟨hp, rfl, htext⟩
  · rintro hnone p ⟨hp, -, htext⟩
    exact hnone ⟨p, hp, htext⟩

/-- **Expressions are read back as they were meant.** In whatever way a path and filters are
written, the same path and the same filters are read; and what does not begin with a path of words,
up to the first bar, is no expression. -/
theorem parse?_round_trip (location : Location) :
    (∀ (e : Expression) (s : Text), e.IsWellFormed → e.HasForm s →
        parse? s location = some ⟨⟨e.path.segments, location⟩, e.filters⟩) ∧
      ∀ s : Text, parse? s location = none ↔
        ¬∃ p : Path, p.IsWellFormed ∧ Text.trim (s.takeWhile (· != '|')) = p.text :=
  ⟨fun _ _ h hform => parse?_of_hasForm h hform location, fun _ => parse?_eq_none_iff⟩

/-- A filter without arguments, and one with two, which are in quotation marks of both kinds and
have parentheses in them. -/
theorem parse?_round_trip_slice :
    let e : Expression := ⟨⟨["user", "name"], .start⟩, [⟨"upper", []⟩, ⟨"slice", ["(1)", "a)b"]⟩]⟩
    let s : Text := " user.name|upper | slice ( '(1)', \"a)b\") "
    e.IsWellFormed ∧ e.HasForm s ∧ parse? s .start = some e := by
  intro e s
  have hpath : e.path.IsWellFormed := ⟨by simp [e], by decide⟩
  have h : e.IsWellFormed := ⟨hpath, by decide⟩
  have hpieces : List.Forall₂ (Text.IsPadded Text.isWrapping)
      [("(1)" : String).toList, ("a)b" : String).toList] [" '(1)'".toList, " \"a)b\"".toList] :=
    .cons ⟨" '", "'", rfl, rfl, rfl⟩ (.cons ⟨" \"", "\"", rfl, rfl, rfl⟩ .nil)
  have hgap : (" " : Text).all Text.isBlank = true := rfl
  have hcall : Filter.HasForm ⟨"slice", ["(1)", "a)b"]⟩ " slice ( '(1)', \"a)b\") " :=
    .call hgap hpieces ⟨" ", " ", rfl, rfl, rfl⟩
  have hform : e.HasForm s :=
    ⟨" user.name", ["upper ", " slice ( '(1)', \"a)b\") "], ⟨" ", [], rfl, rfl, rfl⟩,
      .cons (.bare ⟨[], " ", rfl, rfl, rfl⟩) (.cons hcall .nil), rfl⟩
  exact ⟨h, hform, (parse?_round_trip .start).1 e s h hform⟩

end Expression

end PageTemplate
