import PageTemplate.Text.Basic

/-!
# Texts cut at a character

## Main statements

* `PageTemplate.Text.not_mem_of_mem_splitOn` — the character does not occur in the pieces.
* `PageTemplate.Text.mem_of_mem_splitOn` — everything else in the pieces occurs in the text.
* `PageTemplate.Text.exists_splitOn_eq_cons` — the first piece.
* `PageTemplate.Text.join_append` — pieces are put together in two steps.
* `PageTemplate.Text.exists_splitOn_eq_append` — the last piece that is not empty.
* `PageTemplate.Text.suffix_append_append_iff` — a text without the character that stands at the end
  stands at the end of the last piece.
-/

namespace PageTemplate.Text

theorem not_mem_of_mem_splitOn {a : Char} {s piece : Text} (h : piece ∈ s.splitOn a) :
    a ∉ piece := by
  induction s generalizing piece with
  | nil =>
    rw [List.splitOn_nil, List.mem_singleton] at h
    simp [h]
  | cons c s ih =>
    rw [List.splitOn_cons_eq_if_modifyHead] at h
    split at h
    · rcases List.mem_cons.mp h with rfl | h
      · exact List.not_mem_nil
      · exact ih h
    · next hc =>
      cases hs : s.splitOn a with
      | nil => exact absurd hs (List.splitOn_ne_nil a s)
      | cons first rest =>
        rw [hs] at h ih
        rcases List.mem_cons.mp h with rfl | h
        · have hca : a ≠ c := fun heq => hc (beq_iff_eq.mpr heq.symm)
          rw [List.mem_cons, not_or]
          exact ⟨hca, ih List.mem_cons_self⟩
        · exact ih (List.mem_cons_of_mem _ h)

/-- The first piece reaches to the first occurrence of the character. -/
theorem exists_splitOn_eq_cons (a : Char) (s : Text) :
    ∃ rest, s.splitOn a = s.takeWhile (· != a) :: rest := by
  induction s with
  | nil => exact ⟨[], List.splitOn_nil a⟩
  | cons c s ih =>
    obtain ⟨rest, hrest⟩ := ih
    rw [List.splitOn_cons_eq_if_modifyHead, hrest]
    by_cases hc : c = a
    · exact ⟨s.takeWhile (· != a) :: rest, by simp [hc]⟩
    · exact ⟨rest, by simp [hc]⟩

theorem join_cons (sep piece : Text) (pieces : List Text) :
    join sep (piece :: pieces) = piece ++ pieces.flatMap (sep ++ ·) := by
  induction pieces generalizing piece with
  | nil => simp [join]
  | cons next pieces ih =>
    have hstep : join sep (piece :: next :: pieces) = piece ++ sep ++ join sep (next :: pieces) :=
      List.intercalate_cons_cons
    rw [hstep, ih, List.flatMap_cons]
    simp only [List.append_assoc]

theorem mem_join_of_mem {sep s : Text} {pieces : List Text} {c : Char} (hs : s ∈ pieces)
    (hc : c ∈ s) : c ∈ join sep pieces := by
  obtain ⟨first, rest, rfl⟩ := List.exists_cons_of_ne_nil (List.ne_nil_of_mem hs)
  rw [join_cons, List.mem_append, List.mem_flatMap]
  rcases List.mem_cons.mp hs with rfl | hs
  · exact Or.inl hc
  · exact Or.inr ⟨s, hs, List.mem_append_right sep hc⟩

theorem mem_of_mem_splitOn {a c : Char} {s piece : Text} (h : piece ∈ s.splitOn a)
    (hc : c ∈ piece) : c ∈ s := by
  have hjoin : c ∈ join [a] (s.splitOn a) := mem_join_of_mem h hc
  rwa [join, List.intercalate_splitOn] at hjoin

theorem join_append (sep : Text) {front back : List Text} (hfront : front ≠ [])
    (hback : back ≠ []) : join sep (front ++ back) = join sep front ++ sep ++ join sep back := by
  obtain ⟨first, front, rfl⟩ := List.exists_cons_of_ne_nil hfront
  obtain ⟨last, back, rfl⟩ := List.exists_cons_of_ne_nil hback
  rw [List.cons_append, join_cons, join_cons, join_cons, List.flatMap_append, List.flatMap_cons]
  simp only [List.append_assoc]

/-- The last piece with characters in it is the last of all pieces, unless the text ends in the
character that it is cut at. -/
theorem exists_splitOn_eq_append {a : Char} {s last : Text} {front : List Text}
    (hend : s.getLast? ≠ some a)
    (h : ((s.splitOn a).filter fun piece => !piece.isEmpty) = front ++ [last]) :
    ∃ pieces, s.splitOn a = pieces ++ [last] ∧
      (pieces.filter fun piece => !piece.isEmpty) = front := by
  obtain ⟨before, rest, hpieces, hbefore, hrest⟩ := List.filter_eq_append_iff.mp h
  obtain ⟨empty, after, rfl, hempty, -, hafter⟩ := List.filter_eq_cons_iff.mp hrest
  rcases after.eq_nil_or_concat with rfl | ⟨after, piece, rfl⟩
  · refine ⟨before ++ empty, by rw [hpieces, List.append_assoc], ?_⟩
    rw [List.filter_append, hbefore, List.filter_eq_nil_iff.mpr hempty, List.append_nil]
  · -- an empty piece after the last one stands after a separator
    have hnil : piece = [] := by simpa using List.filter_eq_nil_iff.mp hafter piece (by simp)
    have hs : join [a] (s.splitOn a) = s := List.intercalate_splitOn a
    rw [hpieces, hnil, List.concat_eq_append, ← List.cons_append, ← List.append_assoc,
      ← List.append_assoc, join_append _ (by simp) (List.cons_ne_nil _ _)] at hs
    refine absurd ?_ hend
    rw [← hs]
    simp [join]

/-- What stands at the end of a text stands at the end of its last piece, unless it holds the
character that the pieces were cut at. -/
theorem suffix_append_append_iff {a : Char} {s before piece : Text} (hs : a ∉ s)
    (hbefore : before = [] ∨ before.getLast? = some a) :
    s <:+ before ++ piece ↔ s <:+ piece := by
  refine ⟨fun ⟨front, hfront⟩ => ?_, fun h => h.trans (List.suffix_append before piece)⟩
  rcases List.append_eq_append_iff.mp hfront with ⟨tail, htail, hpiece⟩ | ⟨tail, htail, hpiece⟩
  · -- the text begins before the piece, with the end of what stands there
    rcases hbefore with rfl | hbefore
    · obtain ⟨-, rfl⟩ := List.append_eq_nil_iff.mp htail.symm
      have heq : s = piece := hpiece
      exact heq ▸ List.suffix_rfl
    · rcases tail.eq_nil_or_concat with rfl | ⟨tail, last, rfl⟩
      · have heq : s = piece := hpiece
        exact heq ▸ List.suffix_rfl
      · have hlast : last = a := by
          rw [htail, List.concat_eq_append, ← List.append_assoc, List.getLast?_concat] at hbefore
          exact Option.some.inj hbefore
        refine absurd ?_ hs
        rw [hpiece, hlast]
        simp
  · exact ⟨tail, hpiece.symm⟩

end PageTemplate.Text
