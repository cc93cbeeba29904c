import Mathlib.Data.List.DropRight
import PageTemplate.Proofs.Token.Scanner

/-!
# The places of tokens

A token stands where the tokens before it end. Its line, its column and its offset are counted in
line feeds, in characters since the last of them, and in octets, and all three are those of the text
before it. So the offset and the octets of its value name the value as a part of the source.

## Main statements

* `PageTemplate.Location.advance_start` — line, column and offset after a text.
* `PageTemplate.Token.places_tokenize` — the places of the tokens of a source.
-/

namespace PageTemplate

/-- The place after a text is counted in it: line feeds, characters after the last line feed, and
octets. -/
theorem Location.advance_start (s : Text) :
    Location.start.advance s =
      ⟨1 + s.count '\n', 1 + (s.rtakeWhile (· ≠ '\n')).length, s.utf8Size⟩ := by
  induction s using List.reverseRecOn with
  | nil => rfl
  | append_singleton s c ih =>
    rw [advance_append, ih, List.count_append, List.rtakeWhile_concat, Text.utf8Size_append,
      Text.utf8Size_cons]
    by_cases hc : c = '\n'
    · subst hc
      simp [advance, next]
      omega
    · simp [advance, next, hc]
      omega

namespace Token

/-- Tokens that are placed one after the other begin where the values before them end. -/
theorem location_of_place_eq {location : Location} {ps : List (Kind × Text)}
    {front back : List Token} {t : Token} (h : place location ps = front ++ t :: back) :
    t.location = location.advance (front.flatMap Token.value) := by
  induction front generalizing location ps with
  | nil =>
    cases ps with
    | nil => cases h
    | cons p ps =>
      obtain ⟨kind, value⟩ := p
      obtain ⟨rfl, -⟩ := List.cons.inj h
      rfl
  | cons u front ih =>
    cases ps with
    | nil => cases h
    | cons p ps =>
      obtain ⟨kind, value⟩ := p
      obtain ⟨rfl, htail⟩ := List.cons.inj h
      rw [ih htail, List.flatMap_cons, Location.advance_append]

/-- **The places of tokens are exact.** A scanner that takes the source apart by numbers of octets
names only parts that the source has, and finds its tokens. Each token has the line, the column and
the offset that the text of the tokens before it gives, and its value is what the source has there:
the octets are those of the value, and characters end before the first and with the last of them. -/
theorem places_tokenize (source : Text) :
    Scanner.run? source Scanner.start = some (tokenize source) ∧
    ∀ front t back, tokenize source = front ++ t :: back →
      let before := front.flatMap Token.value
      let size := (Text.toUtf8 t.value).length
      t.location.line = 1 + before.count '\n' ∧
      t.location.column = 1 + (before.rtakeWhile (· ≠ '\n')).length ∧
      t.location.offset = (Text.toUtf8 before).length ∧
      ((Text.toUtf8 source).drop t.location.offset).take size = Text.toUtf8 t.value ∧
      source.slice? t.location.offset size = some t.value := by
  refine ⟨Scanner.run?_start source, fun front t back h => ?_⟩
  intro before size
  have hlocation : t.location = Location.start.advance before := location_of_place_eq h
  have hsource : source = before ++ t.value ++ back.flatMap Token.value := by
    rw [← flatMap_tokenize source, h, List.flatMap_append, List.flatMap_cons, List.append_assoc]
  rw [Location.advance_start] at hlocation
  have hoffset : t.location.offset = (Text.toUtf8 before).length := by
    rw [hlocation, Text.length_toUtf8]
  refine ⟨by rw [hlocation], by rw [hlocation], hoffset, ?_, ?_⟩
  · have hoctets : Text.toUtf8 source =
        Text.toUtf8 before ++ (Text.toUtf8 t.value ++ Text.toUtf8 (back.flatMap Token.value)) := by
      rw [hsource, Text.toUtf8, List.flatMap_append, List.flatMap_append, List.append_assoc]
      rfl
    rw [hoctets, hoffset, List.drop_left, List.take_left]
  · have hsize : size = t.value.utf8Size := Text.length_toUtf8 t.value
    rw [hoffset, hsize, Text.length_toUtf8, hsource, Text.slice?_append]

/-- An output after an opening brace without an end, a line feed within a tag, and characters of
more than one octet. -/
theorem places_tokenize_lines :
    let source : Text := "é\x7b%\n\x7b\x7b\na\x7d\x7dü\x7b\x7bb\x7d\x7d"
    let text : Token := ⟨.text, "é\x7b%\n", ⟨1, 1, 0⟩⟩
    let first : Token := ⟨.output, "\x7b\x7b\na\x7d\x7d", ⟨2, 1, 5⟩⟩
    let gap : Token := ⟨.text, "ü", ⟨3, 4, 11⟩⟩
    let second : Token := ⟨.output, "\x7b\x7bb\x7d\x7d", ⟨3, 5, 13⟩⟩
    tokenize source = [text, first, gap] ++ second :: [] ∧
      source.slice? 13 5 = some second.value := by
  intro source text first gap second
  have h : tokenize source = [text, first, gap] ++ second :: [] := by decide +kernel
  exact ⟨h, ((places_tokenize source).2 _ _ _ h).2.2.2.2⟩

end Token

end PageTemplate
