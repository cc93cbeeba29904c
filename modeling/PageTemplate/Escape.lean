import PageTemplate.Text.Basic

/-!
# Escaping for markup

The five characters with a meaning in markup are written as entities, so that a text stands for
itself in a page.

## Main definitions

* `PageTemplate.Escape.entity?` — the entity of a character.
* `PageTemplate.Escape.escape` — a text with entities in place of these characters.

## Main statements

* `PageTemplate.Escape.escape_eq_flatMap` — escaping goes character by character.
* `PageTemplate.Escape.escape_append` — texts are escaped independently of each other.
-/

namespace PageTemplate.Escape

/-- The entity that stands for a character with a meaning in markup. -/
def entity? : Char → Option Text
  | '&' => some "&amp;"
  | '<' => some "&lt;"
  | '>' => some "&gt;"
  | '"' => some "&quot;"
  | '\'' => some "&#39;"
  | _ => none

/-- A character, or the entity in its place. -/
def escapeChar (c : Char) : Text :=
  (entity? c).getD [c]

/-- Whether a character stands for itself in markup. -/
def isPlain (c : Char) : Bool :=
  (entity? c).isNone

/-- The text with entities in place of the characters that have one; what comes before the first
of them is left alone. -/
def escape (s : Text) : Text :=
  s.takeWhile isPlain ++ (s.dropWhile isPlain).flatMap escapeChar

theorem escapeChar_of_isPlain {c : Char} (h : isPlain c = true) : escapeChar c = [c] := by
  simp only [isPlain, Option.isNone_iff_eq_none] at h
  simp [escapeChar, h]

theorem flatMap_escapeChar_of_all_isPlain {s : Text} (h : ∀ c ∈ s, isPlain c = true) :
    s.flatMap escapeChar = s := by
  induction s with
  | nil => rfl
  | cons c s ih =>
    rw [List.flatMap_cons, escapeChar_of_isPlain (h c (by simp)),
      ih fun d hd => h d (List.mem_cons_of_mem c hd), List.singleton_append]

theorem escape_eq_flatMap (s : Text) : escape s = s.flatMap escapeChar := by
  have hplain : ∀ c ∈ s.takeWhile isPlain, isPlain c = true := by
    intro c hc
    exact List.all_eq_true.mp List.all_takeWhile c hc
  conv => rhs; rw [← List.takeWhile_append_dropWhile (p := isPlain) (l := s)]
  rw [List.flatMap_append, flatMap_escapeChar_of_all_isPlain hplain, escape]

@[simp] theorem escape_nil : escape [] = [] := rfl

theorem escape_append (s t : Text) : escape (s ++ t) = escape s ++ escape t := by
  simp [escape_eq_flatMap]

end PageTemplate.Escape
