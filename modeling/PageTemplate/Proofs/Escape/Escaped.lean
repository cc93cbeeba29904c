import PageTemplate.Escape

/-!
# Escaped texts

An escaped text has no meaning in markup: it begins no tag, ends no attribute, and its ampersands
begin entities, none of which is cut off.

## Main definitions

* `PageTemplate.Escape.entities` — the entities that stand for characters.
* `PageTemplate.Escape.IsEscaped` — a text without a meaning in markup.

## Main statements

* `PageTemplate.Escape.isEscaped_escape` — escaping any text makes such a text.
-/

namespace PageTemplate.Escape

/-- The entities that stand for characters with a meaning in markup. -/
def entities : List Text := ["&amp;", "&lt;", "&gt;", "&quot;", "&#39;"]

/-- A text in which no angle bracket and no quotation mark stands, and in which an entity begins at
every ampersand. -/
structure IsEscaped (s : Text) : Prop where
  not_markup : ∀ c ∈ s, c ≠ '<' ∧ c ≠ '>' ∧ c ≠ '"' ∧ c ≠ '\''
  entity : ∀ rest, '&' :: rest <:+ s → ∃ e ∈ entities, e <+: '&' :: rest

theorem isPlain_iff {c : Char} :
    isPlain c = true ↔ c ≠ '&' ∧ c ≠ '<' ∧ c ≠ '>' ∧ c ≠ '"' ∧ c ≠ '\'' := by
  unfold isPlain entity?
  split <;> simp_all

theorem isEscaped_nil : IsEscaped [] :=
  ⟨by simp, fun rest h => by simp at h⟩

/-- Plain characters in front of an escaped text leave it escaped. -/
theorem IsEscaped.plain_append {s : Text} (hs : IsEscaped s) :
    (p : Text) → (∀ c ∈ p, isPlain c = true) → IsEscaped (p ++ s)
  | [], _ => hs
  | c :: p, hp => by
    have hc := isPlain_iff.mp (hp c List.mem_cons_self)
    have ih := hs.plain_append p fun d hd => hp d (List.mem_cons_of_mem c hd)
    refine ⟨fun d hd => ?_, fun rest hrest => ?_⟩
    · rcases List.mem_cons.mp hd with rfl | hd
      · exact hc.2
      · exact ih.not_markup d hd
    · rcases List.suffix_cons_iff.mp hrest with heq | hrest
      · exact absurd (List.cons.inj heq).1.symm hc.1
      · exact ih.entity rest hrest

/-- An entity in front of an escaped text leaves it escaped. -/
theorem IsEscaped.entity_append {s name : Text} (hs : IsEscaped s) (he : '&' :: name ∈ entities)
    (hname : ∀ c ∈ name, isPlain c = true) : IsEscaped ('&' :: name ++ s) := by
  have htail := hs.plain_append name hname
  refine ⟨fun d hd => ?_, fun rest hrest => ?_⟩
  · rcases List.mem_cons.mp hd with rfl | hd
    · decide
    · exact htail.not_markup d hd
  · rcases List.suffix_cons_iff.mp hrest with heq | hrest
    · refine ⟨'&' :: name, he, ?_⟩
      rw [heq]
      exact List.prefix_append ('&' :: name) s
    · exact htail.entity rest hrest

theorem IsEscaped.escapeChar_append {s : Text} (hs : IsEscaped s) (c : Char) :
    IsEscaped (escapeChar c ++ s) := by
  cases hc : entity? c with
  | none =>
    have hplain : isPlain c = true := by simp [isPlain, hc]
    rw [escapeChar_of_isPlain hplain]
    exact hs.plain_append [c] (by simpa using hplain)
  | some e =>
    rw [escapeChar, hc, Option.getD_some]
    unfold entity? at hc
    split at hc <;> cases hc <;> exact hs.entity_append (by decide) (List.all_eq_true.mp rfl)

theorem isEscaped_escape (s : Text) : IsEscaped (escape s) := by
  rw [escape_eq_flatMap]
  induction s with
  | nil => exact isEscaped_nil
  | cons c s ih => exact ih.escapeChar_append c

end PageTemplate.Escape
