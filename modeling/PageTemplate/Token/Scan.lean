import PageTemplate.Token

/-!
# Cutting a source into tokens

Outputs and tags are found from left to right. At a place where an opening delimiter stands and the
matching closing delimiter follows somewhere, the token reaches to the first such closing
delimiter; everything else is text.

## Main definitions

* `PageTemplate.Token.tagAt?` — the output or tag that begins a text.
* `PageTemplate.Token.pieces` — the parts of a source in order.
* `PageTemplate.Token.place` — parts with the places where they begin.
* `PageTemplate.Token.tokenize` — the tokens of a source.
-/

namespace PageTemplate.Token

/-- The token of one kind that begins a text, and the text after it. -/
def delimited? (kind : Kind) (s : Text) : Option (Text × Text) := do
  let (opening, closing) ← kind.delimiters?
  let body ← Text.dropPrefix? opening s
  let (inner, rest) ← Text.cut? closing body
  return (opening ++ inner ++ closing, rest)

/-- The output, or else the tag, that begins a text, and the text after it. -/
def tagAt? (s : Text) : Option ((Kind × Text) × Text) :=
  match delimited? .output s with
  | some (value, rest) => some ((.output, value), rest)
  | none =>
    match delimited? .tag s with
    | some (value, rest) => some ((.tag, value), rest)
    | none => none

/-- A token of a kind takes its characters from the front of the text. -/
theorem eq_of_delimited? {kind : Kind} {s value rest : Text}
    (h : delimited? kind s = some (value, rest)) : s = value ++ rest := by
  simp only [delimited?, Option.bind_eq_bind, Option.bind_eq_some_iff, Option.pure_def,
    Option.some.injEq, Prod.mk.injEq, Prod.exists] at h
  obtain ⟨opening, closing, _, body, hbody, inner, rest', hcut, rfl, rfl⟩ := h
  rw [Text.dropPrefix?_eq_some_iff.mp hbody, Text.eq_of_cut? hcut]
  simp

/-- A token of a kind is not empty. -/
theorem value_ne_nil_of_delimited? {kind : Kind} {s value rest : Text}
    (h : delimited? kind s = some (value, rest)) : value ≠ [] := by
  simp only [delimited?, Option.bind_eq_bind, Option.bind_eq_some_iff, Option.pure_def,
    Option.some.injEq, Prod.mk.injEq, Prod.exists] at h
  obtain ⟨opening, closing, hkind, body, _, inner, rest', _, rfl, rfl⟩ := h
  cases kind <;> simp [Kind.delimiters?] at hkind <;> simp [← hkind.1]

/-- An output or tag takes its characters from the front of the text. -/
theorem eq_of_tagAt? {s rest : Text} {piece : Kind × Text}
    (h : tagAt? s = some (piece, rest)) : s = piece.2 ++ rest := by
  unfold tagAt? at h
  split at h
  · next hd => cases h; exact eq_of_delimited? hd
  · split at h
    · next hd => cases h; exact eq_of_delimited? hd
    · cases h

/-- The text after an output or tag is shorter. -/
theorem length_lt_of_tagAt? {s rest : Text} {piece : Kind × Text}
    (h : tagAt? s = some (piece, rest)) : rest.length < s.length := by
  have hne : piece.2 ≠ [] := by
    unfold tagAt? at h
    split at h
    · next hd => cases h; exact value_ne_nil_of_delimited? hd
    · split at h
      · next hd => cases h; exact value_ne_nil_of_delimited? hd
      · cases h
  rw [eq_of_tagAt? h, List.length_append]
  have := List.length_pos_iff.mpr hne
  omega

/-- The pieces with a character of text put in front. -/
def consText (c : Char) : List (Kind × Text) → List (Kind × Text)
  | (.text, s) :: pieces => (.text, c :: s) :: pieces
  | pieces => (.text, [c]) :: pieces

/-- The parts of a source in order: outputs, tags, and the text between them. -/
def pieces : Text → List (Kind × Text)
  | [] => []
  | c :: s =>
    match _h : tagAt? (c :: s) with
    | some (piece, rest) => piece :: pieces rest
    | none => consText c (pieces s)
termination_by s => s.length
decreasing_by
  · exact length_lt_of_tagAt? _h
  · simp

/-- The parts with the places where they begin, the first at `location`. -/
def place (location : Location) : List (Kind × Text) → List Token
  | [] => []
  | (kind, value) :: pieces =>
    ⟨kind, value, location⟩ :: place (location.advance value) pieces

/-- The tokens of a source. -/
def tokenize (source : Text) : List Token :=
  place .start (pieces source)

theorem flatMap_consText (c : Char) (ps : List (Kind × Text)) :
    (consText c ps).flatMap Prod.snd = c :: ps.flatMap Prod.snd := by
  unfold consText
  split <;> simp

/-- The parts of a source put together are the source. -/
theorem flatMap_pieces (source : Text) : (pieces source).flatMap Prod.snd = source := by
  fun_induction pieces source with
  | case1 => rfl
  | case2 c s piece rest h ih => rw [List.flatMap_cons, ih, ← eq_of_tagAt? h]
  | case3 c s _ ih => rw [flatMap_consText, ih]

end PageTemplate.Token
