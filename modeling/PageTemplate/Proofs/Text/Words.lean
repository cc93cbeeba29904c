import PageTemplate.Proofs.Text.Word

/-!
# Texts read word by word

A text without blanks around it begins with a run of characters that are not blank, and after a gap
follows a text that can be read in the same way.

## Main definitions

* `PageTemplate.Text.IsGap`, `PageTemplate.Text.IsSolid` — runs of blanks, and of characters that
  are not blank.
* `PageTemplate.Text.FirstWord` — the first run of a text, with what follows after a gap.

## Main statements

* `PageTemplate.Text.exists_firstWord` — a text without blanks around it has a first run.
* `PageTemplate.Text.FirstWord.words_eq` — the words of a text are its first run and the words of
  what follows.
-/

namespace PageTemplate.Text

/-- One or more blanks. -/
def IsGap (s : Text) : Prop :=
  s ≠ [] ∧ ∀ c ∈ s, isBlank c = true

instance (s : Text) : Decidable s.IsGap :=
  decidable_of_iff (s ≠ [] ∧ s.all isBlank = true) (by simp [IsGap])

/-- One or more characters, none of them blank. -/
def IsSolid (s : Text) : Prop :=
  s ≠ [] ∧ ∀ c ∈ s, isBlank c = false

/-- The text begins with `word`, which reaches to the first blank; after a gap follows `rest`,
without blanks around it, or nothing follows. -/
inductive FirstWord : Text → Text → Text → Prop
  | alone {word : Text} (hword : IsSolid word) : FirstWord word word []
  | followed {word gap rest : Text} (hword : IsSolid word) (hgap : IsGap gap) (hne : rest ≠ [])
      (hrest : rest.IsTrimmed) : FirstWord (word ++ gap ++ rest) word rest

variable {s word rest gap : Text}

theorem isSolid_of_isWord (h : isWord word = true) : IsSolid word :=
  ⟨(isWord_iff.mp h).1, isBlank_of_isWord h⟩

/-! ### Words -/

theorem words_append_cons {c : Char} (hc : isBlank c = true) (s t : Text) :
    words (s ++ c :: t) = words s ++ words t := by
  simp only [words, List.splitOnP_append_cons s t hc, List.filter_append]

theorem words_append_of_forall (h : ∀ c ∈ gap, isBlank c = true) (s : Text) :
    words (gap ++ s) = words s := by
  induction gap with
  | nil => rfl
  | cons c gap ih =>
    obtain ⟨hc, hgap⟩ := List.forall_mem_cons.mp h
    have hsplit : words (c :: (gap ++ s)) = words (gap ++ s) := words_append_cons hc [] (gap ++ s)
    rw [List.cons_append, hsplit, ih hgap]

theorem words_of_isSolid (h : IsSolid word) : words word = [word] := by
  rw [words, List.splitOnP_eq_singleton h.2]
  simp [h.1]

/-! ### The first word -/

namespace FirstWord

theorem isSolid (h : FirstWord s word rest) : IsSolid word := by
  cases h with
  | alone hword => exact hword
  | followed hword _ _ _ => exact hword

theorem isTrimmed_rest (h : FirstWord s word rest) : rest.IsTrimmed := by
  cases h with
  | alone _ => exact isTrimmedBy_of_any rfl
  | followed _ _ _ hrest => exact hrest

theorem isTrimmed (h : FirstWord s word rest) : s.IsTrimmed := by
  cases h with
  | alone hword => exact isTrimmedBy_of_forall hword.2
  | followed hword _ hne hrest =>
    exact isTrimmedBy_append_append (isTrimmedBy_of_forall hword.2) hrest hword.1 hne

theorem ne_nil (h : FirstWord s word rest) : s ≠ [] := by
  cases h with
  | alone hword => exact hword.1
  | followed hword _ _ _ => simp [hword.1]

theorem eq_of_nil (h : FirstWord s word []) : s = word := by
  cases h with
  | alone _ => rfl
  | followed _ _ hne _ => exact absurd rfl hne

theorem exists_gap (h : FirstWord s word rest) (hne : rest ≠ []) :
    ∃ gap, IsGap gap ∧ s = word ++ gap ++ rest := by
  cases h with
  | alone _ => exact absurd rfl hne
  | followed _ hgap _ _ => exact ⟨_, hgap, rfl⟩

theorem words_eq (h : FirstWord s word rest) : words s = word :: words rest := by
  cases h with
  | alone hword => exact words_of_isSolid hword
  | @followed _ gap _ hword hgap _ _ =>
    obtain ⟨c, gap, rfl⟩ := List.exists_cons_of_ne_nil hgap.1
    obtain ⟨hc, hblank⟩ := List.forall_mem_cons.mp hgap.2
    rw [List.append_assoc, List.cons_append, words_append_cons hc, words_of_isSolid hword,
      words_append_of_forall hblank]
    rfl

end FirstWord

/-- What stands at the end of a text without blanks around it has no blank at its end. -/
theorem IsTrimmed.getLast? {front back : Text} (h : IsTrimmed (front ++ back)) :
    ∀ c ∈ back.getLast?, isBlank c = false := by
  intro c hc
  refine h.2 c ?_
  rw [List.getLast?_append, Option.mem_def.mp hc, Option.some_or]
  rfl

theorem exists_firstWord (h : s.IsTrimmed) (hne : s ≠ []) :
    ∃ word rest, FirstWord s word rest := by
  obtain ⟨first, tail, rfl⟩ := List.exists_cons_of_ne_nil hne
  have hfirst : isBlank first = false := h.1 first rfl
  let word := (first :: tail).takeWhile fun c => !isBlank c
  let after := (first :: tail).dropWhile fun c => !isBlank c
  have hs : word ++ after = first :: tail := List.takeWhile_append_dropWhile
  have hword : IsSolid word :=
    ⟨by simp [word, hfirst], fun c hc => by simpa using List.mem_takeWhile_imp hc⟩
  rw [← hs] at h ⊢
  cases hafter : after with
  | nil => exact ⟨word, [], by simpa using FirstWord.alone hword⟩
  | cons c back =>
    have hc : isBlank c = true := by
      have hhead : c ∈ after.head? := by rw [hafter]; rfl
      simpa using head?_dropWhile hhead
    let gap := (c :: back).takeWhile isBlank
    let rest := (c :: back).dropWhile isBlank
    have hback : gap ++ rest = c :: back := List.takeWhile_append_dropWhile
    have hgap : IsGap gap := ⟨by simp [gap, hc], fun d hd => List.mem_takeWhile_imp hd⟩
    rw [hafter, ← hback] at h
    -- the text does not end in the gap, so something follows it
    have hrest : rest ≠ [] := by
      intro hnil
      rw [hnil, List.append_nil] at h
      have hlast := h.getLast? _ (List.getLast?_eq_some_getLast hgap.1)
      rw [hgap.2 _ (List.getLast_mem hgap.1)] at hlast
      exact Bool.noConfusion hlast
    rw [← List.append_assoc] at h
    refine ⟨word, rest, ?_⟩
    rw [← hback, ← List.append_assoc]
    exact .followed hword hgap hrest ⟨fun d hd => head?_dropWhile hd, h.getLast?⟩

/-! ### Reading on -/

theorem eq_nil_of_words_eq_nil (h : s.IsTrimmed) (hwords : words s = []) : s = [] := by
  by_contra hne
  obtain ⟨word, rest, hfirst⟩ := exists_firstWord h hne
  rw [hfirst.words_eq] at hwords
  exact List.cons_ne_nil _ _ hwords

theorem exists_firstWord_of_words {back : List Text} (h : s.IsTrimmed)
    (hwords : words s = word :: back) : ∃ rest, FirstWord s word rest ∧ words rest = back := by
  have hne : s ≠ [] := by
    rintro rfl
    exact List.cons_ne_nil _ _ hwords.symm
  obtain ⟨first, rest, hfirst⟩ := exists_firstWord h hne
  rw [hfirst.words_eq] at hwords
  obtain ⟨rfl, rfl⟩ := List.cons.inj hwords
  exact ⟨rest, hfirst, rfl⟩

end PageTemplate.Text
