import PageTemplate.Proofs.Escape.Escaped
import PageTemplate.Proofs.Text.Octets

/-!
# Escaped texts read back

Whoever reads a page takes the entities in it for the characters that they stand for. One pass from
left to right gives back the text that was escaped, even one that has the letters of an entity in
it already: its ampersands are escaped like all others. So escaping loses nothing.

Escaping may begin at the first character that needs it, found by the number of octets before it.
The octets before it then stay as they are, and where there is no such character the whole text
does.

## Main definitions

* `PageTemplate.Escape.decode` — a text with characters in place of the five entities.
* `PageTemplate.Escape.markupOffset?` — how many octets stand before the first character with a
  meaning in markup.
* `PageTemplate.Escape.escapeFrom?` — a text escaped from an offset on.

## Main statements

* `PageTemplate.Escape.decode_escape` — decoding gives back what was escaped.
* `PageTemplate.Escape.escapeFrom?_markupOffset?` — escaping may begin at the first character that
  needs it.
* `PageTemplate.Escape.escape_faithful` — escaping is an encoding, character by character.
-/

namespace PageTemplate.Escape

/-! ### Entities read as characters -/

/-- The text with characters in place of the five entities, in one pass from left to right. An
ampersand that begins none of them stands for itself. -/
def decode : Text → Text
  | '&' :: 'a' :: 'm' :: 'p' :: ';' :: s => '&' :: decode s
  | '&' :: 'l' :: 't' :: ';' :: s => '<' :: decode s
  | '&' :: 'g' :: 't' :: ';' :: s => '>' :: decode s
  | '&' :: 'q' :: 'u' :: 'o' :: 't' :: ';' :: s => '"' :: decode s
  | '&' :: '#' :: '3' :: '9' :: ';' :: s => '\'' :: decode s
  | c :: s => c :: decode s
  | [] => []

theorem decode_cons {c : Char} (h : c ≠ '&') (s : Text) : decode (c :: s) = c :: decode s := by
  conv => lhs; unfold decode
  split <;> simp_all

/-- An entity is read as the character that it stands for, whatever follows. -/
theorem decode_entity_append {c : Char} {e : Text} (h : entity? c = some e) (s : Text) :
    decode (e ++ s) = c :: decode s := by
  unfold entity? at h
  split at h <;> cases h <;> rfl

theorem decode_escapeChar_append (c : Char) (s : Text) :
    decode (escapeChar c ++ s) = c :: decode s := by
  cases hc : entity? c with
  | some e => rw [escapeChar, hc, Option.getD_some, decode_entity_append hc]
  | none =>
    have hplain : isPlain c = true := by rw [isPlain, hc, Option.isNone_none]
    rw [escapeChar_of_isPlain hplain, List.singleton_append, decode_cons (isPlain_iff.mp hplain).1]

/-- Decoding gives back what was escaped. -/
theorem decode_escape (s : Text) : decode (escape s) = s := by
  rw [escape_eq_flatMap]
  induction s with
  | nil => rfl
  | cons c s ih => rw [List.flatMap_cons, decode_escapeChar_append, ih]

/-! ### Escaping from an offset on -/

/-- The number of octets before the first character with a meaning in markup, if there is one. -/
def markupOffset? : Text → Option Nat
  | [] => none
  | c :: s => if isPlain c then (markupOffset? s).map (c.utf8Size + ·) else some 0

/-- The text escaped from an offset on, or left alone without one. There is none if no character
ends at the offset. -/
def escapeFrom? (s : Text) : Option Nat → Option Text
  | none => some s
  | some offset =>
    (Text.cutOctets? offset s).map fun (front, back) => front ++ back.flatMap escapeChar

/-- Either there is nothing to escape, or the offset ends the plain characters at the beginning. -/
theorem markupOffset?_eq (s : Text) :
    markupOffset? s =
      if s.dropWhile isPlain = [] then none else some (Text.utf8Size (s.takeWhile isPlain)) := by
  induction s with
  | nil => rfl
  | cons c s ih =>
    by_cases hc : isPlain c = true
    · rw [markupOffset?, if_pos hc, ih, List.dropWhile_cons_of_pos hc,
        List.takeWhile_cons_of_pos hc, Text.utf8Size_cons]
      split <;> rfl
    · rw [markupOffset?, if_neg hc, List.dropWhile_cons_of_neg hc, List.takeWhile_cons_of_neg hc,
        if_neg (List.cons_ne_nil c s), Text.utf8Size_nil]

/-- Escaping may begin at the first character that needs it. -/
theorem escapeFrom?_markupOffset? (s : Text) :
    escapeFrom? s (markupOffset? s) = some (escape s) := by
  have hs : s.takeWhile isPlain ++ s.dropWhile isPlain = s := List.takeWhile_append_dropWhile
  rw [markupOffset?_eq]
  split
  · next hplain =>
    -- nothing is left to escape, so the text is its own plain beginning
    rw [hplain, List.append_nil] at hs
    rw [escapeFrom?, escape, hplain, hs, List.flatMap_nil, List.append_nil]
  · have hcut : Text.cutOctets? (Text.utf8Size (s.takeWhile isPlain)) s =
        some (s.takeWhile isPlain, s.dropWhile isPlain) :=
      Text.cutOctets?_eq_some_iff.mpr ⟨hs.symm, rfl⟩
    rw [escapeFrom?, hcut, Option.map_some, escape]

/-! ### An encoding -/

/-- **Escaping is a faithful encoding.** Texts are escaped independently of each other and character
by character, and beginning at the first character that needs it gives nothing else. Decoding gives
back what was escaped, so no two texts have one escaped text. -/
theorem escape_faithful (s t : Text) :
    escape (s ++ t) = escape s ++ escape t ∧
    (escapeFrom? s (markupOffset? s) = some (escape s) ∧ escape s = s.flatMap escapeChar) ∧
    decode (escape s) = s ∧
    (escape s = escape t ↔ s = t) := by
  have hinjective : Function.Injective escape :=
    Function.LeftInverse.injective (g := decode) decode_escape
  exact ⟨escape_append s t, ⟨escapeFrom?_markupOffset? s, escape_eq_flatMap s⟩, decode_escape s,
    hinjective.eq_iff⟩

/-- A text that has the letters of an entity in it is escaped once more, and decoded only once. -/
example : escape "a &amp;lt; <é>" = ("a &amp;amp;lt; &lt;é&gt;" : String).toList ∧
    decode "a &amp;amp;lt; &lt;é&gt;" = ("a &amp;lt; <é>" : String).toList := by decide

end PageTemplate.Escape
