import PageTemplate.Proofs.Text.Cut
import PageTemplate.Token.Scan

/-!
# The tokens of a source

The tokens of a source are its only division into texts, outputs and tags in which the outputs and
tags end at their first closing delimiter and the texts are as long as they can be.

## Main definitions

* `PageTemplate.Token.Kind.Encloses` — what stands between delimiters, up to the first closing one.
* `PageTemplate.Token.BeginsTag` — a text that begins with an output or a tag.
* `PageTemplate.Token.IsDelimited` — a token that ends at its first closing delimiter.
* `PageTemplate.Token.IsTokenization` — a division of a source of this kind.

## Main statements

* `PageTemplate.Token.isCutting_iff` — the divisions of this kind, read from their ends.
* `PageTemplate.Token.isTokenization_iff` — the tokens of a source are such a division, and apart
  from their places they are the only one.
-/

namespace PageTemplate.Token

variable {kind : Kind} {s value rest : Text} {t : Token} {tokens : List Token}

/-! ### Outputs and tags at the front of a text -/

/-- The text `s` is `inner` between the delimiters of the kind, and the closing delimiter occurs
nowhere in it before its end. -/
def Kind.Encloses (kind : Kind) (inner s : Text) : Prop :=
  ∃ opening closing, kind.delimiters? = some (opening, closing) ∧
    s = opening ++ inner ++ closing ∧ Text.StopsAt closing inner

theorem delimited?_eq_some_iff :
    delimited? kind s = some (value, rest) ↔
      ∃ inner, kind.Encloses inner value ∧ s = value ++ rest := by
  simp only [delimited?, Option.bind_eq_bind, Option.bind_eq_some_iff, Option.pure_def,
    Option.some.injEq, Prod.mk.injEq, Prod.exists, Text.dropPrefix?_eq_some_iff,
    Text.cut?_eq_some_iff]
  constructor
  · rintro ⟨opening, closing, hkind, body, rfl, inner, rest', ⟨rfl, hstops⟩, rfl, rfl⟩
    exact ⟨inner, ⟨opening, closing, hkind, rfl, hstops⟩, by simp⟩
  · rintro ⟨inner, ⟨opening, closing, hkind, rfl, hstops⟩, rfl⟩
    exact ⟨opening, closing, hkind, inner ++ closing ++ rest, by simp, inner, rest,
      ⟨rfl, hstops⟩, rfl, rfl⟩

theorem delimited?_text (s : Text) : delimited? .text s = none := rfl

/-- The two kinds of delimiters begin differently, so a tag is not mistaken for an output. -/
theorem delimited?_output_eq_none (h : delimited? .tag s = some (value, rest)) :
    delimited? .output s = none := by
  obtain ⟨inner, ⟨opening, closing, hkind, rfl, -⟩, rfl⟩ := delimited?_eq_some_iff.mp h
  obtain ⟨rfl, rfl⟩ := Prod.mk.inj (Option.some.inj hkind)
  rfl

theorem tagAt?_eq_some_iff :
    tagAt? s = some ((kind, value), rest) ↔ delimited? kind s = some (value, rest) := by
  cases ho : delimited? .output s with
  | some found =>
    obtain ⟨v, r⟩ := found
    simp only [tagAt?, ho]
    cases kind with
    | text => simp [delimited?_text]
    | output => simp [ho]
    | tag =>
      have hne : delimited? .tag s ≠ some (value, rest) := fun ht => by
        rw [delimited?_output_eq_none ht] at ho
        exact Option.some_ne_none _ ho.symm
      simp [hne]
  | none =>
    cases ht : delimited? .tag s with
    | some found =>
      obtain ⟨v, r⟩ := found
      simp only [tagAt?, ho, ht]
      cases kind <;> simp [delimited?_text, ho, ht]
    | none =>
      simp only [tagAt?, ho, ht]
      cases kind <;> simp [delimited?_text, ho, ht]

/-- The text begins with an opening delimiter, and the closing delimiter of its kind follows. -/
def BeginsTag (s : Text) : Prop :=
  ∃ kind opening closing, Kind.delimiters? kind = some (opening, closing) ∧
    ∃ inner rest, s = opening ++ inner ++ closing ++ rest

theorem head?_of_beginsTag (h : BeginsTag s) : s.head? = some '\x7b' := by
  obtain ⟨kind, opening, closing, hkind, inner, rest, rfl⟩ := h
  cases kind with
  | text => exact absurd hkind (by simp [Kind.delimiters?])
  | _ =>
    obtain ⟨rfl, rfl⟩ := Prod.mk.inj (Option.some.inj hkind)
    rfl

theorem tagAt?_eq_none_iff : tagAt? s = none ↔ ¬BeginsTag s := by
  constructor
  · rintro h ⟨kind, opening, closing, hkind, inner, rest, rfl⟩
    cases hcut : Text.cut? closing (inner ++ closing ++ rest) with
    | none => exact Text.cut?_eq_none_iff.mp hcut inner rest rfl
    | some found =>
      obtain ⟨first, after⟩ := found
      obtain ⟨heq, hstops⟩ := Text.cut?_eq_some_iff.mp hcut
      have hs : opening ++ inner ++ closing ++ rest = opening ++ first ++ closing ++ after := by
        rw [List.append_assoc, List.append_assoc, ← List.append_assoc inner, heq]
        simp
      have hsome : tagAt? (opening ++ inner ++ closing ++ rest) =
          some ((kind, opening ++ first ++ closing), after) :=
        tagAt?_eq_some_iff.mpr
          (delimited?_eq_some_iff.mpr ⟨first, ⟨opening, closing, hkind, rfl, hstops⟩, hs⟩)
      rw [h] at hsome
      exact Option.some_ne_none _ hsome.symm
  · intro h
    rw [Option.eq_none_iff_forall_ne_some]
    rintro ⟨⟨kind, value⟩, rest⟩ hsome
    obtain ⟨inner, ⟨opening, closing, hkind, rfl, -⟩, rfl⟩ :=
      delimited?_eq_some_iff.mp (tagAt?_eq_some_iff.mp hsome)
    exact h ⟨kind, opening, closing, hkind, inner, rest, rfl⟩

theorem tagAt?_eq_none_of_head? (h : s.head? ≠ some '\x7b') : tagAt? s = none :=
  tagAt?_eq_none_iff.mpr fun hbegins => h (head?_of_beginsTag hbegins)

/-! ### Divisions read from their ends -/

/-- A division of a text, given by the kinds and values of its parts: an output or a tag is the one
that begins the text at its place, and where a text stands none begins. -/
inductive IsCutting : List (Kind × Text) → Prop
  | nil : IsCutting []
  | tag {kind value pieces}
      (hbegins : tagAt? (value ++ pieces.flatMap Prod.snd) =
        some ((kind, value), pieces.flatMap Prod.snd))
      (hpieces : IsCutting pieces) : IsCutting ((kind, value) :: pieces)
  | text {value pieces} (hne : value ≠ [])
      (hplain : ∀ before after, value = before ++ after → after ≠ [] →
        tagAt? (after ++ pieces.flatMap Prod.snd) = none)
      (hhead : pieces.head?.map Prod.fst ≠ some .text)
      (hpieces : IsCutting pieces) : IsCutting ((.text, value) :: pieces)

theorem IsCutting.of_encloses {inner : Text} {ps : List (Kind × Text)}
    (h : kind.Encloses inner value) (hps : IsCutting ps) : IsCutting ((kind, value) :: ps) :=
  .tag (tagAt?_eq_some_iff.mpr (delimited?_eq_some_iff.mpr ⟨inner, h, rfl⟩)) hps

/-- A text in which no delimiter can begin stands for itself. -/
theorem IsCutting.of_not_mem {ps : List (Kind × Text)} (hne : value ≠ []) (h : '\x7b' ∉ value)
    (hhead : ps.head?.map Prod.fst ≠ some .text) (hps : IsCutting ps) :
    IsCutting ((.text, value) :: ps) := by
  refine .text hne (fun before after heq hafter => ?_) hhead hps
  obtain ⟨c, after, rfl⟩ := List.exists_cons_of_ne_nil hafter
  refine tagAt?_eq_none_of_head? fun hhead => h ?_
  have hc : c = '\x7b' := Option.some.inj hhead
  simp [heq, hc]

theorem pieces_of_tagAt? {piece : Kind × Text} (h : tagAt? s = some (piece, rest)) :
    pieces s = piece :: pieces rest := by
  cases s with
  | nil => exact absurd (length_lt_of_tagAt? h) (by simp)
  | cons c s =>
    rw [pieces]
    split
    · next hsome =>
      obtain ⟨rfl, rfl⟩ := Prod.mk.inj (Option.some.inj (hsome.symm.trans h))
      rfl
    · next hnone => exact absurd (hnone.symm.trans h) (by simp)

theorem pieces_of_tagAt?_eq_none {c : Char} (h : tagAt? (c :: s) = none) :
    pieces (c :: s) = consText c (pieces s) := by
  rw [pieces]
  split
  · next hsome => exact absurd (hsome.symm.trans h) (by simp)
  · rfl

theorem consText_of_head? {pieces : List (Kind × Text)} (c : Char)
    (h : pieces.head?.map Prod.fst ≠ some .text) : consText c pieces = (.text, [c]) :: pieces := by
  unfold consText
  split
  · simp at h
  · rfl

/-- Where no output or tag begins, the characters come one by one before the first part. -/
theorem pieces_append
    (hplain : ∀ before after, value = before ++ after → after ≠ [] →
      tagAt? (after ++ rest) = none) :
    pieces (value ++ rest) = value.foldr consText (pieces rest) := by
  induction value with
  | nil => rfl
  | cons c value ih =>
    have hc : tagAt? (c :: (value ++ rest)) = none := hplain [] (c :: value) rfl (by simp)
    rw [List.cons_append, pieces_of_tagAt?_eq_none hc, List.foldr_cons,
      ih fun before after heq => hplain (c :: before) after (by rw [heq]; rfl)]

theorem foldr_consText {ps : List (Kind × Text)} (hne : value ≠ [])
    (hhead : ps.head?.map Prod.fst ≠ some .text) :
    value.foldr consText ps = (.text, value) :: ps := by
  induction value with
  | nil => exact absurd rfl hne
  | cons c value ih =>
    rw [List.foldr_cons]
    cases value with
    | nil => exact consText_of_head? c hhead
    | cons d value =>
      rw [ih (by simp)]
      rfl

theorem pieces_text_append (hne : value ≠ [])
    (hplain : ∀ before after, value = before ++ after → after ≠ [] → tagAt? (after ++ rest) = none)
    (hhead : (pieces rest).head?.map Prod.fst ≠ some .text) :
    pieces (value ++ rest) = (.text, value) :: pieces rest := by
  rw [pieces_append hplain, foldr_consText hne hhead]

theorem pieces_flatMap_of_isCutting {ps : List (Kind × Text)} (h : IsCutting ps) :
    pieces (ps.flatMap Prod.snd) = ps := by
  induction h with
  | nil => rw [List.flatMap_nil, pieces]
  | tag hbegins _ ih => rw [List.flatMap_cons, pieces_of_tagAt? hbegins, ih]
  | text hne hplain hhead _ ih =>
    rw [List.flatMap_cons, pieces_text_append hne hplain (by rwa [ih]), ih]

theorem tagAt?_ne_text (s : Text) (found : Text × Text) :
    tagAt? s ≠ some ((.text, found.1), found.2) := by
  rw [ne_eq, tagAt?_eq_some_iff, delimited?_text]
  exact Option.some_ne_none _ ∘ Eq.symm

/-- A character at which no output or tag begins lengthens the text at the front, or begins one. -/
theorem IsCutting.consText {ps : List (Kind × Text)} (h : IsCutting ps) {c : Char}
    (hc : tagAt? (c :: ps.flatMap Prod.snd) = none) : IsCutting (consText c ps) := by
  have hsingle (hhead : ps.head?.map Prod.fst ≠ some .text) : IsCutting ((.text, [c]) :: ps) := by
    refine .text (by simp) (fun before after heq hne => ?_) hhead h
    cases before with
    | nil => rw [← List.nil_append after, ← heq]; exact hc
    | cons d before =>
      have hnil := (List.cons.inj heq).2.symm
      exact absurd (List.append_eq_nil_iff.mp hnil).2 hne
  cases h with
  | nil => exact hsingle (by simp)
  | @tag kind value pieces hbegins hpieces =>
    have hkind : kind ≠ .text := by
      rintro rfl
      exact tagAt?_ne_text _ (value, pieces.flatMap Prod.snd) hbegins
    have hhead : ((kind, value) :: pieces).head?.map Prod.fst ≠ some .text := by simpa using hkind
    rw [consText_of_head? c hhead]
    exact hsingle hhead
  | @text value pieces hne hplain hhead hpieces =>
    refine .text (by simp) (fun before after heq hafter => ?_) hhead hpieces
    cases before with
    | nil => rw [← List.nil_append after, ← heq]; exact hc
    | cons d before => exact hplain before after (List.cons.inj heq).2 hafter

theorem isCutting_pieces (source : Text) : IsCutting (pieces source) := by
  fun_induction pieces source with
  | case1 => exact .nil
  | case2 c s piece rest h ih =>
    refine .tag ?_ ih
    rw [flatMap_pieces, ← eq_of_tagAt? h]
    exact h
  | case3 c s h ih =>
    refine ih.consText ?_
    rwa [flatMap_pieces]

theorem isCutting_iff {ps : List (Kind × Text)} :
    IsCutting ps ↔ pieces (ps.flatMap Prod.snd) = ps :=
  ⟨pieces_flatMap_of_isCutting, fun h => h ▸ isCutting_pieces _⟩

theorem isCutting_cons_iff {ps : List (Kind × Text)} :
    IsCutting ((kind, value) :: ps) ↔
      (kind = .text → value ≠ [] ∧ ps.head?.map Prod.fst ≠ some .text ∧
        ∀ before after, value = before ++ after → after ≠ [] →
          tagAt? (after ++ ps.flatMap Prod.snd) = none) ∧
      (kind ≠ .text →
        tagAt? (value ++ ps.flatMap Prod.snd) = some ((kind, value), ps.flatMap Prod.snd)) ∧
      IsCutting ps := by
  constructor
  · intro h
    cases h with
    | tag hbegins hps =>
      refine ⟨?_, fun _ => hbegins, hps⟩
      rintro rfl
      exact absurd hbegins (tagAt?_ne_text _ (value, ps.flatMap Prod.snd))
    | text hne hplain hhead hps =>
      exact ⟨fun _ => ⟨hne, hhead, hplain⟩, fun h => absurd rfl h, hps⟩
  · rintro ⟨htext, htag, hps⟩
    by_cases hkind : kind = .text
    · subst hkind
      obtain ⟨hne, hhead, hplain⟩ := htext rfl
      exact .text hne hplain hhead hps
    · exact .tag (htag hkind) hps

/-! ### Divisions of a source -/

/-- The delimiters of its kind enclose a text in the token, and the content of the token is that
text without the blanks around it. -/
def IsDelimited (t : Token) : Prop :=
  ∃ inner, t.kind.Encloses inner t.value ∧ t.content = Text.trim inner

/-- A division of a source: nothing is lost; no text is empty or stands beside a text; outputs and
tags end at their first closing delimiter; and none begins at a place that a text covers. -/
structure IsTokenization (source : Text) (tokens : List Token) : Prop where
  flatMap_value : tokens.flatMap Token.value = source
  text_ne_nil : ∀ t ∈ tokens, t.kind = .text → t.value ≠ []
  not_adjacent : ∀ front t u back, tokens = front ++ t :: u :: back →
    ¬(t.kind = .text ∧ u.kind = .text)
  isDelimited : ∀ t ∈ tokens, t.kind ≠ .text → t.IsDelimited
  not_beginsTag : ∀ front t back, tokens = front ++ t :: back → t.kind = .text →
    ∀ before after, t.value = before ++ after → after ≠ [] →
      ¬BeginsTag (after ++ back.flatMap Token.value)

/-- The kind and the value of a token, without its place. -/
def piece (t : Token) : Kind × Text :=
  (t.kind, t.value)

theorem flatMap_map_piece (tokens : List Token) :
    (tokens.map piece).flatMap Prod.snd = tokens.flatMap Token.value := by
  rw [List.flatMap_map]
  rfl

theorem map_piece_place (location : Location) (ps : List (Kind × Text)) :
    (place location ps).map piece = ps := by
  induction ps generalizing location with
  | nil => rfl
  | cons p ps ih => rw [place, List.map_cons, ih]; rfl

theorem flatMap_tokenize (source : Text) : (tokenize source).flatMap Token.value = source := by
  rw [← flatMap_map_piece, tokenize, map_piece_place, flatMap_pieces]

theorem content_eq_trim {inner : Text} (h : t.kind.Encloses inner t.value) :
    t.content = Text.trim inner := by
  obtain ⟨opening, closing, hkind, hvalue, -⟩ := h
  have hbetween : between? opening closing (opening ++ inner ++ closing) = some inner := by
    rw [between?, List.append_assoc, Text.dropPrefix?_append, Option.bind_some,
      Text.dropSuffix?_eq_some_iff]
  rw [content, hkind]
  simp only [hvalue, hbetween, Option.getD_some]

theorem isDelimited_iff (rest : Text) :
    t.IsDelimited ↔ tagAt? (t.value ++ rest) = some ((t.kind, t.value), rest) := by
  rw [tagAt?_eq_some_iff, delimited?_eq_some_iff]
  constructor
  · rintro ⟨inner, hencloses, -⟩
    exact ⟨inner, hencloses, rfl⟩
  · rintro ⟨inner, hencloses, -⟩
    exact ⟨inner, hencloses, content_eq_trim hencloses⟩

theorem isTokenization_cons_iff {source : Text} :
    IsTokenization source (t :: tokens) ↔
      t.value ++ tokens.flatMap Token.value = source ∧
      (t.kind = .text → t.value ≠ [] ∧ (tokens.map piece).head?.map Prod.fst ≠ some .text ∧
        ∀ before after, t.value = before ++ after → after ≠ [] →
          ¬BeginsTag (after ++ tokens.flatMap Token.value)) ∧
      (t.kind ≠ .text → t.IsDelimited) ∧
      IsTokenization (tokens.flatMap Token.value) tokens := by
  constructor
  · intro h
    refine ⟨h.flatMap_value, fun hkind => ⟨h.text_ne_nil t (by simp) hkind, ?_,
      h.not_beginsTag [] t tokens rfl hkind⟩, h.isDelimited t (by simp), rfl,
      fun u hu => h.text_ne_nil u (by simp [hu]), fun front u v back heq => ?_,
      fun u hu => h.isDelimited u (by simp [hu]), fun front u back heq => ?_⟩
    · cases tokens with
      | nil => simp
      | cons u back =>
        intro hu
        exact h.not_adjacent [] t u back rfl ⟨hkind, Option.some.inj hu⟩
    · exact h.not_adjacent (t :: front) u v back (by rw [heq]; rfl)
    · exact h.not_beginsTag (t :: front) u back (by rw [heq]; rfl)
  · rintro ⟨rfl, htext, htag, h⟩
    refine ⟨rfl, ?_, fun front u v back heq => ?_, ?_, fun front u back heq => ?_⟩
    · exact List.forall_mem_cons.mpr ⟨fun hkind => (htext hkind).1, h.text_ne_nil⟩
    · cases front with
      | nil =>
        obtain ⟨rfl, rfl⟩ := List.cons.inj heq
        rintro ⟨hkind, hu⟩
        exact (htext hkind).2.1 (congrArg some hu)
      | cons _ front => exact h.not_adjacent front u v back (List.cons.inj heq).2
    · exact List.forall_mem_cons.mpr ⟨htag, h.isDelimited⟩
    · cases front with
      | nil =>
        obtain ⟨rfl, rfl⟩ := List.cons.inj heq
        exact fun hkind => (htext hkind).2.2
      | cons _ front => exact h.not_beginsTag front u back (List.cons.inj heq).2

theorem isTokenization_iff_isCutting {source : Text} :
    IsTokenization source tokens ↔
      tokens.flatMap Token.value = source ∧ IsCutting (tokens.map piece) := by
  induction tokens generalizing source with
  | nil =>
    exact ⟨fun h => ⟨h.flatMap_value, .nil⟩, fun h => ⟨h.1, by simp, by simp, by simp, by simp⟩⟩
  | cons t tokens ih =>
    rw [isTokenization_cons_iff, List.map_cons, List.flatMap_cons, piece, isCutting_cons_iff, ih,
      isDelimited_iff (tokens.flatMap Token.value)]
    simp only [tagAt?_eq_none_iff, flatMap_map_piece, true_and]

/-- **The tokens of a source are its only tokenization.** Apart from the places of the tokens, a
division of the source is a tokenization exactly if it is the one into tokens. -/
theorem isTokenization_iff (source : Text) (tokens : List Token) :
    IsTokenization source tokens ↔ tokens.map piece = (tokenize source).map piece := by
  rw [isTokenization_iff_isCutting, isCutting_iff, tokenize, map_piece_place, flatMap_map_piece]
  constructor
  · rintro ⟨rfl, h⟩
    exact h.symm
  · intro h
    have hsource : tokens.flatMap Token.value = source := by
      rw [← flatMap_map_piece, h, flatMap_pieces]
    exact ⟨hsource, by rw [hsource, h]⟩

end PageTemplate.Token
