import PageTemplate.Text.Basic

/-!
# Cuts at the first occurrence of a separator

## Main definitions

* `PageTemplate.Text.StopsAt` — a text that is followed by the first occurrence of a separator.

## Main statements

* `PageTemplate.Text.cut?_eq_some_iff`, `PageTemplate.Text.cut?_eq_none_iff` — what a cut finds, and
  when it finds nothing.
* `PageTemplate.Text.stopsAt_of_not_mem`, `PageTemplate.Text.stopsAt_pair` — texts that can be
  followed by a separator.
-/

namespace PageTemplate.Text

/-- In the text with `sep` after it, the first occurrence of `sep` is the one at the end. -/
def StopsAt (sep s : Text) : Prop :=
  ∀ before after, s ++ sep = before ++ sep ++ after → after = []

variable {sep s before after : Text} {c : Char}

theorem stopsAt_nil (sep : Text) : StopsAt sep [] := by
  intro before after h
  have hlength := congrArg List.length h
  simp only [List.nil_append, List.length_append] at hlength
  exact List.eq_nil_of_length_eq_zero (by omega)

theorem StopsAt.of_cons (h : StopsAt sep (c :: s)) : StopsAt sep s := by
  intro before after heq
  refine h (c :: before) after ?_
  rw [List.cons_append, heq, List.cons_append, List.cons_append]

/-- No occurrence of `sep` begins before the end. -/
theorem StopsAt.dropPrefix?_eq_none (h : StopsAt sep (c :: s)) (after : Text) :
    dropPrefix? sep (c :: s ++ sep ++ after) = none := by
  rw [Option.eq_none_iff_forall_ne_some]
  intro rest hrest
  have hprefix : sep <+: c :: s ++ sep := by
    refine List.prefix_of_prefix_length_le ⟨rest, (dropPrefix?_eq_some_iff.mp hrest).symm⟩
      (List.prefix_append _ after) ?_
    simp only [List.length_append]
    omega
  obtain ⟨tail, htail⟩ := hprefix
  have hnil := h [] tail (by simpa using htail.symm)
  rw [hnil, List.append_nil] at htail
  have hlength := congrArg List.length htail
  simp only [List.length_append, List.length_cons] at hlength
  omega

theorem dropPrefix?_eq_none_iff : dropPrefix? sep s = none ↔ ∀ rest, s ≠ sep ++ rest := by
  simp only [Option.eq_none_iff_forall_ne_some, ne_eq, dropPrefix?_eq_some_iff]

/-- A separator at the front is found there. -/
theorem cut?_sep_append (sep after : Text) : cut? sep (sep ++ after) = some ([], after) := by
  cases hs : sep ++ after with
  | nil =>
    obtain ⟨rfl, rfl⟩ := List.append_eq_nil_iff.mp hs
    rfl
  | cons d t => rw [cut?, ← hs, dropPrefix?_append]

theorem cut?_append (h : StopsAt sep s) (after : Text) :
    cut? sep (s ++ sep ++ after) = some (s, after) := by
  induction s with
  | nil => exact cut?_sep_append sep after
  | cons c s ih =>
    have hnone := h.dropPrefix?_eq_none after
    simp only [List.cons_append] at hnone ⊢
    rw [cut?, hnone]
    simp only [ih h.of_cons, Option.map_some]

theorem stopsAt_of_cut? (h : cut? sep s = some (before, after)) : StopsAt sep before := by
  induction s generalizing before with
  | nil =>
    obtain ⟨rest, _, heq⟩ := Option.map_eq_some_iff.mp h
    rw [← (Prod.mk.inj heq).1]
    exact stopsAt_nil sep
  | cons c s ih =>
    unfold cut? at h
    split at h
    · rw [← (Prod.mk.inj (Option.some.inj h)).1]
      exact stopsAt_nil sep
    · next hnone =>
      obtain ⟨⟨front, rest⟩, hcut, heq⟩ := Option.map_eq_some_iff.mp h
      obtain ⟨rfl, rfl⟩ := Prod.mk.inj heq
      intro b a hba
      cases b with
      | nil =>
        refine absurd ?_ (dropPrefix?_eq_none_iff.mp hnone (a ++ rest))
        rw [eq_of_cut? hcut, ← List.cons_append, ← List.cons_append, hba]
        simp
      | cons d b =>
        refine ih hcut b a ?_
        simpa using (List.cons.inj hba).2

/-- A cut is made at the first occurrence of the separator. -/
theorem cut?_eq_some_iff :
    cut? sep s = some (before, after) ↔ s = before ++ sep ++ after ∧ StopsAt sep before := by
  refine ⟨fun h => ⟨eq_of_cut? h, stopsAt_of_cut? h⟩, ?_⟩
  rintro ⟨rfl, h⟩
  exact cut?_append h after

/-- Only a text without the separator cannot be cut. -/
theorem cut?_eq_none_iff : cut? sep s = none ↔ ∀ before after, s ≠ before ++ sep ++ after := by
  constructor
  · rintro h before after rfl
    induction before with
    | nil =>
      rw [List.nil_append, cut?_sep_append] at h
      exact Option.some_ne_none _ h
    | cons c before ih =>
      simp only [List.cons_append] at h ih
      rw [cut?] at h
      split at h
      · exact Option.some_ne_none _ h
      · exact ih (Option.map_eq_none_iff.mp h)
  · intro h
    rw [Option.eq_none_iff_forall_ne_some]
    rintro ⟨before, after⟩ hcut
    exact h before after (eq_of_cut? hcut)

/-! ### Texts that stop at a separator -/

theorem StopsAt.cons (h : StopsAt sep s) (hne : ∀ after, c :: s ++ sep ≠ sep ++ after) :
    StopsAt sep (c :: s) := by
  intro before after heq
  cases before with
  | nil => exact absurd (by simpa using heq) (hne after)
  | cons d before =>
    refine h before after ?_
    simpa using (List.cons.inj heq).2

theorem stopsAt_of_not_mem {a : Char} (h : a ∉ s) : StopsAt (a :: sep) s := by
  induction s with
  | nil => exact stopsAt_nil _
  | cons c s ih =>
    obtain ⟨hac, has⟩ := not_or.mp (mt List.mem_cons.mpr h)
    exact (ih has).cons fun after heq => hac (List.cons.inj heq).1.symm

/-- The two characters of the separator have to be different: `x=` does not stop at `==`. -/
theorem stopsAt_pair {a b : Char} (hab : a ≠ b) (h : ¬[a, b] <:+: s) : StopsAt [a, b] s := by
  induction s with
  | nil => exact stopsAt_nil _
  | cons c s ih =>
    rw [List.infix_cons_iff, not_or] at h
    obtain ⟨hfront, hback⟩ := h
    refine (ih hback).cons fun after heq => ?_
    obtain ⟨rfl, htail⟩ := List.cons.inj heq
    cases s with
    | nil => exact hab (List.cons.inj htail).1
    | cons d s =>
      obtain ⟨rfl, -⟩ := List.cons.inj htail
      exact hfront ⟨s, rfl⟩

theorem not_infix_append_of_not_mem_left {a b : Char} {t : Text} (ha : a ∉ s)
    (h : ¬[a, b] <:+: t) : ¬[a, b] <:+: s ++ t := by
  induction s with
  | nil => exact h
  | cons c s ih =>
    obtain ⟨hac, has⟩ := not_or.mp (mt List.mem_cons.mpr ha)
    rw [List.cons_append, List.infix_cons_iff, List.cons_prefix_cons]
    rintro (⟨rfl, -⟩ | hinfix)
    · exact hac rfl
    · exact ih has hinfix

theorem not_infix_append_of_not_mem_right {a b : Char} {t : Text} (hb : b ∉ t)
    (h : ¬[a, b] <:+: s) : ¬[a, b] <:+: s ++ t := by
  rw [← List.reverse_infix, List.reverse_append]
  refine not_infix_append_of_not_mem_left (by simpa using hb) ?_
  rwa [← List.reverse_infix] at h

end PageTemplate.Text
