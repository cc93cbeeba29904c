import PageTemplate.Text.Blank

/-!
# Text

Text is the list of its characters. Templates, names and values are cut with the operations of
this file: trimming at both ends, splitting at a separator, and cutting at the first occurrence of
a separator.

## Main definitions

* `PageTemplate.Text` — a list of characters; a string literal stands for its characters.
* `PageTemplate.Text.trim`, `PageTemplate.Text.trimBy` — text without the blanks, or the characters
  of a class, at its ends.
* `PageTemplate.Text.dropPrefix?`, `PageTemplate.Text.dropSuffix?` — the text without a given
  beginning or end.
* `PageTemplate.Text.cut?` — the text before and after the first occurrence of a separator.
* `PageTemplate.Text.words` — the maximal runs of characters that are not blank.
* `PageTemplate.Text.isWord` — one or more ASCII letters, digits and underscores.

## Main statements

* `PageTemplate.Text.dropPrefix?_eq_some_iff`, `PageTemplate.Text.dropSuffix?_eq_some_iff` — what
  is dropped and what is left make up the text.
* `PageTemplate.Text.eq_of_cut?` — a cut loses nothing but the separator.
-/

namespace PageTemplate

/-- Text is the list of its characters. -/
abbrev Text := List Char

instance : Coe String Text := ⟨String.toList⟩

namespace Text

/-- The text without the characters of the class `p` at its two ends. -/
def trimBy (p : Char → Bool) (s : Text) : Text :=
  ((s.dropWhile p).reverse.dropWhile p).reverse

/-- The text without blanks at its two ends. -/
def trim (s : Text) : Text :=
  trimBy isBlank s

/-- The text after `front`, if the text begins with it. -/
def dropPrefix? : Text → Text → Option Text
  | [], s => some s
  | _ :: _, [] => none
  | c :: front, d :: s => if c = d then dropPrefix? front s else none

/-- The text before `back`, if the text ends with it. -/
def dropSuffix? (back s : Text) : Option Text :=
  (dropPrefix? back.reverse s.reverse).map List.reverse

/-- The text before the first occurrence of `sep` and the text after it. -/
def cut? (sep : Text) : Text → Option (Text × Text)
  | [] => (dropPrefix? sep []).map fun rest => ([], rest)
  | c :: s =>
    match dropPrefix? sep (c :: s) with
    | some rest => some ([], rest)
    | none => (cut? sep s).map fun (before, after) => (c :: before, after)

/-- The text around the first character of the class `p`, that character left out. -/
def cutWhere? (p : Char → Bool) : Text → Option (Text × Text)
  | [] => none
  | c :: s => if p c then some ([], s) else (cutWhere? p s).map fun (a, b) => (c :: a, b)

/-- The maximal runs of characters that are not blank, in order. -/
def words (s : Text) : List Text :=
  (s.splitOnP isBlank).filter fun w => !w.isEmpty

/-- The pieces put together with `sep` between them. -/
def join (sep : Text) (pieces : List Text) : Text :=
  sep.intercalate pieces

/-- An ASCII letter, an ASCII digit or an underscore. -/
def isWordChar (c : Char) : Bool :=
  c.isAlphanum || c == '_'

/-- One or more ASCII letters, digits and underscores. -/
def isWord (s : Text) : Bool :=
  !s.isEmpty && s.all isWordChar

/-- A single or double quotation mark. -/
def isQuote (c : Char) : Bool :=
  c == '\'' || c == '"'

/-- The text without blanks and quotation marks at its two ends, in any mixture. -/
def unwrap (s : Text) : Text :=
  trimBy (fun c => isBlank c || isQuote c) s

/-- Equality that takes the upper and lower case of an ASCII letter for the same. -/
def eqIgnoringAsciiCase (s t : Text) : Bool :=
  s.map Char.toLower == t.map Char.toLower

/-- The text with blanks put before it until it has `width` characters. -/
def padLeft (width : Nat) (s : Text) : Text :=
  List.replicate (width - s.length) ' ' ++ s

/-- The text with blanks put after it until it has `width` characters. -/
def padRight (width : Nat) (s : Text) : Text :=
  s ++ List.replicate (width - s.length) ' '

/-! ### A cut loses nothing but its separator -/

theorem dropPrefix?_append (front rest : Text) : dropPrefix? front (front ++ rest) = some rest := by
  induction front with
  | nil => simp [dropPrefix?]
  | cons c front ih => simp [dropPrefix?, ih]

theorem dropPrefix?_eq_some_iff {front s rest : Text} :
    dropPrefix? front s = some rest ↔ s = front ++ rest := by
  refine ⟨fun h => ?_, fun h => h ▸ dropPrefix?_append front rest⟩
  induction front generalizing s with
  | nil => simpa [dropPrefix?] using h
  | cons c front ih =>
    cases s with
    | nil => simp [dropPrefix?] at h
    | cons d s =>
      simp only [dropPrefix?] at h
      split at h
      · next hcd => rw [hcd, ih h, List.cons_append]
      · simp at h

theorem dropSuffix?_eq_some_iff {back s rest : Text} :
    dropSuffix? back s = some rest ↔ s = rest ++ back := by
  simp only [dropSuffix?, Option.map_eq_some_iff, dropPrefix?_eq_some_iff]
  constructor
  · rintro ⟨front, hs, rfl⟩
    rw [← List.reverse_reverse s, hs, List.reverse_append, List.reverse_reverse]
  · rintro rfl
    exact ⟨rest.reverse, by simp, by simp⟩

theorem eq_of_cut? {sep s before after : Text} (h : cut? sep s = some (before, after)) :
    s = before ++ sep ++ after := by
  induction s generalizing before after with
  | nil =>
    obtain ⟨rest, hrest, heq⟩ := Option.map_eq_some_iff.mp h
    obtain ⟨rfl, rfl⟩ := Prod.mk.inj heq
    simp [dropPrefix?_eq_some_iff.mp hrest]
  | cons c s ih =>
    unfold cut? at h
    split at h
    · next rest hrest =>
      obtain ⟨rfl, rfl⟩ := Prod.mk.inj (Option.some.inj h)
      simpa using dropPrefix?_eq_some_iff.mp hrest
    · obtain ⟨⟨a, b⟩, hab, heq⟩ := Option.map_eq_some_iff.mp h
      obtain ⟨rfl, rfl⟩ := Prod.mk.inj heq
      rw [ih hab]
      simp

end Text

end PageTemplate
