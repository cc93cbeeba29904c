import PageTemplate.Proofs.Text.Trim

/-!
# Words

A word has no blanks in it, and no characters that separate or enclose words.

## Main statements

* `PageTemplate.Text.isBlank_of_isWord`, `PageTemplate.Text.not_mem_of_isWord` — what does not occur
  in words.
* `PageTemplate.Text.mem_join` — what occurs in words that are put together.
* `PageTemplate.Text.isTrimmedBy_join` — what stands at the ends of texts that are put together.
-/

namespace PageTemplate.Text

/-- Letters, digits and the underscore lie between two runs of blanks. -/
theorem toNat_of_isWordChar {c : Char} (h : isWordChar c = true) :
    48 ≤ c.toNat ∧ c.toNat ≤ 122 := by
  rcases Bool.or_eq_true_iff.mp h with halphanum | hunderscore
  · rcases Bool.or_eq_true_iff.mp halphanum with halpha | hdigit
    · rcases Bool.or_eq_true_iff.mp halpha with hupper | hlower
      · obtain ⟨hfirst, hlast⟩ := of_decide_eq_true hupper
        have h65 : 65 ≤ c.toNat := UInt32.le_iff_toNat_le.mp hfirst
        have h90 : c.toNat ≤ 90 := UInt32.le_iff_toNat_le.mp hlast
        omega
      · obtain ⟨hfirst, hlast⟩ := Bool.and_eq_true_iff.mp hlower
        have h97 : 97 ≤ c.toNat := UInt32.le_iff_toNat_le.mp (of_decide_eq_true hfirst)
        have h122 : c.toNat ≤ 122 := UInt32.le_iff_toNat_le.mp (of_decide_eq_true hlast)
        omega
    · have hrange : 48 ≤ c.toNat ∧ c.toNat ≤ 57 := Char.isDigit_iff_toNat.mp hdigit
      omega
  · rw [beq_iff_eq.mp hunderscore]
    decide

theorem isBlank_of_isWordChar {c : Char} (h : isWordChar c = true) : isBlank c = false := by
  have hrange := toNat_of_isWordChar h
  simp only [isBlank, Bool.or_eq_false_iff, Bool.and_eq_false_iff, decide_eq_false_iff_not,
    beq_eq_false_iff_ne]
  omega

theorem isWord_iff {s : Text} : isWord s = true ↔ s ≠ [] ∧ ∀ c ∈ s, isWordChar c = true := by
  simp [isWord]

theorem isBlank_of_isWord {s : Text} (h : isWord s = true) : ∀ c ∈ s, isBlank c = false :=
  fun c hc => isBlank_of_isWordChar ((isWord_iff.mp h).2 c hc)

theorem isTrimmed_of_isWord {s : Text} (h : isWord s = true) : IsTrimmed s :=
  isTrimmedBy_of_forall (isBlank_of_isWord h)

theorem not_mem_of_isWord {s : Text} {c : Char} (h : isWord s = true) (hc : isWordChar c = false) :
    c ∉ s := by
  intro hmem
  rw [(isWord_iff.mp h).2 c hmem] at hc
  exact Bool.false_ne_true hc.symm

theorem mem_join {sep : Text} {c : Char} : (pieces : List Text) → c ∈ join sep pieces →
    c ∈ sep ∨ ∃ s ∈ pieces, c ∈ s
  | [], h => absurd h (by simp [join])
  | [s], h => Or.inr ⟨s, by simp, by simpa [join] using h⟩
  | s :: t :: pieces, h => by
    rw [join, List.intercalate_cons_cons, List.append_assoc, List.mem_append, List.mem_append] at h
    rcases h with hs | hsep | hrest
    · exact Or.inr ⟨s, by simp, hs⟩
    · exact Or.inl hsep
    · exact (mem_join (t :: pieces) hrest).imp_right fun ⟨u, hu, hc⟩ => ⟨u, by simp [hu], hc⟩

theorem isTrimmedBy_join {p : Char → Bool} {c : Char} (hc : p c = false) : (pieces : List Text) →
    (∀ s ∈ pieces, IsTrimmedBy p s) → IsTrimmedBy p (join [c] pieces)
  | [], _ => isTrimmedBy_of_any rfl
  | [s], h => by simpa [join] using h s
  | s :: t :: pieces, h => by
    obtain ⟨hs, hrest⟩ := List.forall_mem_cons.mp h
    have hjoin : join [c] (s :: t :: pieces) = s ++ c :: join [c] (t :: pieces) := by
      rw [join, List.intercalate_cons_cons, List.append_assoc]
      rfl
    rw [hjoin]
    exact isTrimmedBy_append_cons hs hc (isTrimmedBy_join hc (t :: pieces) hrest)

end PageTemplate.Text
