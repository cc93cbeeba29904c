import Mathlib.Data.List.DropRight
import Mathlib.Data.List.TakeWhile
import PageTemplate.Text.Basic

/-!
# Texts without blanks at their ends

## Main definitions

* `PageTemplate.Text.IsTrimmedBy` — a text that neither begins nor ends with a character of a class.
* `PageTemplate.Text.IsPadded` — a text with characters of a class around it.

## Main statements

* `PageTemplate.Text.trimBy_append_append` — trimming takes away what was put around a text.
* `PageTemplate.Text.trimBy_eq_self` — and it takes away nothing else.
* `PageTemplate.Text.isTrimmedBy_trimBy` — after trimming there is nothing left to trim.
-/

namespace PageTemplate.Text

/-- The text neither begins nor ends with a character of the class `p`. -/
def IsTrimmedBy (p : Char → Bool) (s : Text) : Prop :=
  (∀ c ∈ s.head?, p c = false) ∧ ∀ c ∈ s.getLast?, p c = false

instance (p : Char → Bool) (s : Text) : Decidable (IsTrimmedBy p s) :=
  decidable_of_iff (s.head?.any p = false ∧ s.getLast?.any p = false)
    (by simp [IsTrimmedBy, Option.any_eq_false])

/-- The text has no blanks at its ends. -/
def IsTrimmed (s : Text) : Prop :=
  IsTrimmedBy isBlank s

instance (s : Text) : Decidable s.IsTrimmed :=
  inferInstanceAs (Decidable (IsTrimmedBy isBlank s))

/-- `padded` is the text `s` with characters of the class `p` before and after it, or with none. -/
def IsPadded (p : Char → Bool) (s padded : Text) : Prop :=
  ∃ front back, front.all p = true ∧ back.all p = true ∧ padded = front ++ s ++ back

/-- A blank or a quotation mark. -/
def isWrapping (c : Char) : Bool :=
  isBlank c || isQuote c

variable {p : Char → Bool} {s front back padded : Text}

theorem trimBy_append_append (hfront : front.all p = true) (hback : back.all p = true) :
    trimBy p (front ++ s ++ back) = trimBy p s := by
  rw [List.all_eq_true] at hfront hback
  rw [trimBy, trimBy, List.append_assoc, List.dropWhile_append_of_pos hfront, List.dropWhile_append]
  by_cases h : (s.dropWhile p).isEmpty = true
  · rw [if_pos h, List.dropWhile_eq_nil_iff.mpr hback, List.isEmpty_iff.mp h]
  · rw [if_neg h, List.reverse_append, List.dropWhile_append_of_pos (by simpa using hback)]

theorem dropWhile_eq_self_of_head? (h : ∀ c ∈ s.head?, p c = false) : s.dropWhile p = s := by
  cases s with
  | nil => rfl
  | cons c s => rw [List.dropWhile_cons, h c rfl, if_neg Bool.false_ne_true]

theorem trimBy_eq_self (h : IsTrimmedBy p s) : trimBy p s = s := by
  rw [trimBy, dropWhile_eq_self_of_head? h.1, dropWhile_eq_self_of_head?, List.reverse_reverse]
  rw [List.head?_reverse]
  exact h.2

theorem trimBy_of_isPadded (h : IsPadded p s padded) (hs : IsTrimmedBy p s) :
    trimBy p padded = s := by
  obtain ⟨front, back, hfront, hback, rfl⟩ := h
  rw [trimBy_append_append hfront hback, trimBy_eq_self hs]

theorem unwrap_of_isPadded (h : IsPadded isWrapping s padded) (hs : IsTrimmedBy isWrapping s) :
    unwrap padded = s :=
  trimBy_of_isPadded h hs

theorem isPadded_append (s : Text) (hback : back.all p = true) : IsPadded p s (s ++ back) :=
  ⟨[], back, rfl, hback, rfl⟩

theorem not_mem_of_all {c : Char} (h : s.all p = true) (hc : p c = false) : c ∉ s := by
  intro hmem
  rw [List.all_eq_true.mp h c hmem] at hc
  exact Bool.false_ne_true hc.symm

theorem mem_of_mem_trimBy {c : Char} (h : c ∈ trimBy p s) : c ∈ s := by
  rw [trimBy, List.mem_reverse] at h
  have hfront : c ∈ (s.dropWhile p).reverse := (List.dropWhile_sublist p).subset h
  exact (List.dropWhile_sublist p).subset (List.mem_reverse.mp hfront)

/-- A character that is not of the class does not come from what was put around a text. -/
theorem not_mem_of_isPadded {c : Char} (h : IsPadded p s padded) (hs : c ∉ s) (hc : p c = false) :
    c ∉ padded := by
  obtain ⟨front, back, hfront, hback, rfl⟩ := h
  simp only [List.mem_append, not_or]
  exact ⟨⟨not_mem_of_all hfront hc, hs⟩, not_mem_of_all hback hc⟩

/-- Where a text stops being of a class, a character that is not of the class stands. -/
theorem head?_dropWhile {c : Char} (hc : c ∈ (s.dropWhile p).head?) : p c = false := by
  have hnot := List.head?_dropWhile_not p s
  rw [Option.mem_def.mp hc] at hnot
  exact hnot

theorem isTrimmedBy_trimBy (p : Char → Bool) (s : Text) : IsTrimmedBy p (trimBy p s) := by
  have htrim : trimBy p s = (s.dropWhile p).rdropWhile p := rfl
  rw [htrim]
  constructor
  · intro c hc
    obtain ⟨tail, htail⟩ := List.rdropWhile_prefix p (s.dropWhile p)
    refine head?_dropWhile (s := s) ?_
    rw [← htail, List.head?_append, Option.mem_def.mp hc, Option.some_or]
    rfl
  · intro c hc
    obtain ⟨hne, rfl⟩ := List.mem_getLast?_eq_getLast hc
    simpa using List.rdropWhile_last_not p (s.dropWhile p) hne

theorem trim_eq_self (h : s.IsTrimmed) : trim s = s :=
  trimBy_eq_self h

theorem trim_trim (s : Text) : trim (trim s) = trim s :=
  trim_eq_self (isTrimmedBy_trimBy isBlank s)

theorem map_trim_eq_self {pieces : List Text} (h : ∀ s ∈ pieces, s.IsTrimmed) :
    pieces.map trim = pieces := by
  have hmap : pieces.map trim = pieces.map id :=
    List.map_congr_left fun s hs => trim_eq_self (h s hs)
  rw [hmap, List.map_id]

theorem isTrimmedBy_of_forall (h : ∀ c ∈ s, p c = false) : IsTrimmedBy p s :=
  ⟨fun c hc => h c (List.mem_of_head? hc), fun c hc => h c (List.mem_of_getLast? hc)⟩

theorem forall_of_any (h : s.any p = false) : ∀ c ∈ s, p c = false := by
  simpa using h

theorem isTrimmedBy_of_any (h : s.any p = false) : IsTrimmedBy p s :=
  isTrimmedBy_of_forall (forall_of_any h)

/-- Only the ends of a text matter. -/
theorem isTrimmedBy_append_append (hfront : IsTrimmedBy p front) (hback : IsTrimmedBy p back)
    (hfront_ne : front ≠ []) (hback_ne : back ≠ []) : IsTrimmedBy p (front ++ s ++ back) := by
  constructor
  · obtain ⟨c, front, rfl⟩ := List.exists_cons_of_ne_nil hfront_ne
    exact hfront.1
  · rw [List.getLast?_append, Option.or_of_isSome (List.getLast?_isSome.mpr hback_ne)]
    exact hback.2

/-- Two texts can be put around a character that is not of the class, even if they are empty. -/
theorem isTrimmedBy_append_cons {c : Char} (hfront : IsTrimmedBy p front) (hc : p c = false)
    (hback : IsTrimmedBy p back) : IsTrimmedBy p (front ++ c :: back) := by
  constructor
  · cases front with
    | nil => simpa using hc
    | cons d front => exact hfront.1
  · rw [List.getLast?_append, List.getLast?_cons, Option.some_or]
    cases hlast : back.getLast? with
    | none => simpa using hc
    | some d => simpa using hback.2 d hlast

/-! ### Quotation marks -/

theorem isBlank_of_isQuote {c : Char} (h : isQuote c = true) : isBlank c = false := by
  rcases Bool.or_eq_true_iff.mp h with hsingle | hdouble
  · rw [beq_iff_eq.mp hsingle]
    rfl
  · rw [beq_iff_eq.mp hdouble]
    rfl

theorem isTrimmed_quote {c : Char} (h : isQuote c = true) : IsTrimmed [c] :=
  isTrimmedBy_of_forall (by simpa using isBlank_of_isQuote h)

/-! ### The first blank -/

theorem cutWhere?_eq_none (h : ∀ c ∈ s, p c = false) : cutWhere? p s = none := by
  induction s with
  | nil => rfl
  | cons c s ih =>
    obtain ⟨hc, hs⟩ := List.forall_mem_cons.mp h
    rw [cutWhere?, hc, if_neg Bool.false_ne_true, ih hs, Option.map_none]

theorem cutWhere?_append {c : Char} (h : ∀ d ∈ s, p d = false) (hc : p c = true) (rest : Text) :
    cutWhere? p (s ++ c :: rest) = some (s, rest) := by
  induction s with
  | nil => rw [List.nil_append, cutWhere?, if_pos hc]
  | cons d s ih =>
    have hd : p d = false := h d List.mem_cons_self
    rw [List.cons_append, cutWhere?, hd, if_neg Bool.false_ne_true,
      ih fun e he => h e (List.mem_cons_of_mem d he), Option.map_some]

end PageTemplate.Text
