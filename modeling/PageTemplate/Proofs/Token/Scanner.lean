import PageTemplate.Proofs.Text.Octets
import PageTemplate.Proofs.Token.Cutting

/-!
# Scanning with a cursor

A source can be cut into tokens by a scanner that holds the place of a cursor and takes everything
it needs out of the source by numbers of octets. Where no output or tag begins it passes, in one
step, all characters up to the next opening brace, and it notes where a text begins only when it
takes its first part. Such a scanner could fail, by naming a part that the source does not have, or
never come to an end. This file shows that it does neither and finds the tokens of the source.

## Main definitions

* `PageTemplate.Token.Scanner` — the state of the scanner.
* `PageTemplate.Token.Scanner.step?` — one output or tag, or one stretch of text.
* `PageTemplate.Token.Scanner.run?` — the tokens that it finds.
* `PageTemplate.Token.Scanner.Tracks` — where the scanner stands in the source.

## Main statements

* `PageTemplate.Token.Scanner.offset_lt_of_step?` — a step moves the cursor.
* `PageTemplate.Token.Scanner.exists_step?` — one step succeeds and loses no token.
* `PageTemplate.Token.Scanner.run?_start` — the scanner finds the tokens of the source.
-/

namespace PageTemplate

theorem Location.offset_advance (l : Location) (s : Text) :
    (l.advance s).offset = l.offset + s.utf8Size := by
  induction s generalizing l with
  | nil => rfl
  | cons c s ih =>
    have hnext : (l.next c).offset = l.offset + c.utf8Size := by
      unfold next
      split <;> rfl
    rw [Text.utf8Size_cons, ← Nat.add_assoc, ← hnext, ← ih]
    rfl

namespace Token

/-- A scanner on its way: the tokens found so far, the text passed since the last of them with the
place where it begins, and the place of the cursor. -/
structure Scanner where
  tokens : List Token
  pending : Text
  begun : Location
  cursor : Location

namespace Scanner

/-- The scanner at the beginning of a source. -/
def start : Scanner := ⟨[], [], .start, .start⟩

/-- The tokens found so far, the text passed since the last of them included. -/
def found (s : Scanner) : List Token :=
  if s.pending.isEmpty then s.tokens else s.tokens ++ [⟨.text, s.pending, s.begun⟩]

/-- The kind of the output or tag that begins a text, and the number of its octets. -/
def tagSize? (rest : Text) : Option (Kind × Nat) :=
  (tagAt? rest).map fun ((kind, value), _) => (kind, value.utf8Size)

/-- The number of octets from the beginning of a text to its next opening brace, one that begins
the text left out. -/
def stride? (rest : Text) : Option Nat := do
  let size := (rest.head?.map Char.utf8Size).getD 1
  let rest ← rest.after? size
  return size + Text.utf8Size (rest.takeWhile (· ≠ '\x7b'))

/-- The cursor after the next `size` octets of the source. -/
def moved? (source : Text) (s : Scanner) (size : Nat) : Option Location :=
  (source.slice? s.cursor.offset size).map s.cursor.advance

/-- The scanner after one output or tag, or after one stretch of text. -/
def step? (source : Text) (s : Scanner) : Option Scanner := do
  let rest ← source.after? s.cursor.offset
  match tagSize? rest with
  | some (kind, size) =>
    let value ← source.slice? s.cursor.offset size
    let cursor ← s.moved? source size
    return ⟨s.found ++ [⟨kind, value, s.cursor⟩], [], cursor, cursor⟩
  | none =>
    let size ← stride? rest
    let passed ← rest.slice? 0 size
    let cursor ← s.moved? source size
    return ⟨s.tokens, s.pending ++ passed, if s.pending.isEmpty then s.cursor else s.begun, cursor⟩

/-! ### Every step leads on -/

theorem tagSize?_pos {rest : Text} {kind : Kind} {size : Nat}
    (h : tagSize? rest = some (kind, size)) : 0 < size := by
  obtain ⟨⟨⟨kind, value⟩, back⟩, htag, heq⟩ := Option.map_eq_some_iff.mp h
  obtain ⟨rfl, rfl⟩ := Prod.mk.inj heq
  have hlt := length_lt_of_tagAt? htag
  rw [eq_of_tagAt? htag] at hlt
  refine Nat.pos_of_ne_zero fun hzero => ?_
  simp [Text.utf8Size_eq_zero_iff.mp hzero] at hlt

theorem stride?_pos {rest : Text} {size : Nat} (h : stride? rest = some size) : 0 < size := by
  obtain ⟨back, -, heq⟩ := Option.bind_eq_some_iff.mp h
  obtain rfl := Option.some.inj heq
  cases rest with
  | nil => exact Nat.add_pos_left Nat.one_pos _
  | cons c rest => exact Nat.add_pos_left c.utf8Size_pos _

theorem offset_of_moved? {source : Text} {s : Scanner} {size : Nat} {cursor : Location}
    (h : s.moved? source size = some cursor) : cursor.offset = s.cursor.offset + size := by
  obtain ⟨value, hvalue, rfl⟩ := Option.map_eq_some_iff.mp h
  obtain ⟨front, back, -, -, rfl⟩ := Text.slice?_eq_some_iff.mp hvalue
  exact Location.offset_advance s.cursor value

/-- A step that succeeds moves the cursor, wherever the scanner stands. -/
theorem offset_lt_of_step? {source : Text} {s s' : Scanner} (h : s.step? source = some s') :
    s.cursor.offset < s'.cursor.offset := by
  obtain ⟨rest, -, h⟩ := Option.bind_eq_some_iff.mp h
  split at h
  · next kind size hsize =>
    obtain ⟨value, -, h⟩ := Option.bind_eq_some_iff.mp h
    obtain ⟨cursor, hcursor, heq⟩ := Option.bind_eq_some_iff.mp h
    obtain rfl := Option.some.inj heq
    have hpos := tagSize?_pos hsize
    have hmoved := offset_of_moved? hcursor
    show s.cursor.offset < cursor.offset
    omega
  · obtain ⟨size, hsize, h⟩ := Option.bind_eq_some_iff.mp h
    obtain ⟨passed, -, h⟩ := Option.bind_eq_some_iff.mp h
    obtain ⟨cursor, hcursor, heq⟩ := Option.bind_eq_some_iff.mp h
    obtain rfl := Option.some.inj heq
    have hpos := stride?_pos hsize
    have hmoved := offset_of_moved? hcursor
    show s.cursor.offset < cursor.offset
    omega

/-- The tokens that the scanner finds until it is at the end of the source; there are none if it
names a part that the source does not have. -/
def run? (source : Text) (s : Scanner) : Option (List Token) :=
  if s.cursor.offset < source.utf8Size then
    match _h : s.step? source with
    | some s' => run? source s'
    | none => none
  else some s.found
termination_by source.utf8Size - s.cursor.offset
decreasing_by
  have := offset_lt_of_step? _h
  omega

theorem run?_of_step? {source : Text} {s s' : Scanner}
    (hlt : s.cursor.offset < source.utf8Size) (hstep : s.step? source = some s') :
    run? source s = run? source s' := by
  rw [run?, if_pos hlt]
  split
  · next s'' h =>
    obtain rfl := Option.some.inj (hstep.symm.trans h)
    rfl
  · next h => cases hstep.symm.trans h

theorem run?_of_end {source : Text} {s : Scanner} (hle : source.utf8Size ≤ s.cursor.offset) :
    run? source s = some s.found := by
  rw [run?, if_neg (Nat.not_lt.mpr hle)]

/-! ### Where the scanner stands -/

/-- The scanner stands between the two parts of a source `before ++ s.pending` and `rest`, and it
knows the place there and the place where its pending text begins. -/
structure Tracks (source : Text) (s : Scanner) (before rest : Text) : Prop where
  source_eq : source = before ++ s.pending ++ rest
  cursor_eq : s.cursor = Location.start.advance (before ++ s.pending)
  begun_eq : s.pending ≠ [] → s.begun = Location.start.advance before

variable {source before rest passed value : Text} {s : Scanner} {kind : Kind}

/-- The tokens of the pending text and of the rest of the source. -/
def ahead (s : Scanner) (before rest : Text) : List Token :=
  place (Location.start.advance before) (s.pending.foldr consText (pieces rest))

theorem tracks_start (source : Text) : Tracks source start [] source :=
  ⟨rfl, rfl, fun h => absurd rfl h⟩

theorem Tracks.offset_eq (h : Tracks source s before rest) :
    s.cursor.offset = (before ++ s.pending).utf8Size := by
  rw [h.cursor_eq, Location.offset_advance]
  exact Nat.zero_add _

theorem Tracks.after?_eq (h : Tracks source s before rest) :
    source.after? s.cursor.offset = some rest := by
  rw [h.offset_eq, h.source_eq, Text.after?_append]

theorem Tracks.slice?_eq (h : Tracks source s before (value ++ rest)) :
    source.slice? s.cursor.offset value.utf8Size = some value := by
  rw [h.offset_eq, h.source_eq, ← List.append_assoc, Text.slice?_append]

theorem Tracks.moved?_eq (h : Tracks source s before (value ++ rest)) :
    s.moved? source value.utf8Size =
      some (Location.start.advance (before ++ s.pending ++ value)) := by
  rw [moved?, h.slice?_eq, Option.map_some, h.cursor_eq, ← Location.advance_append]

/-! ### One step -/

/-- A pending text is a token of its own before an output or tag, and at the end of the source. -/
theorem found_append_place (h : Tracks source s before rest) {ps : List (Kind × Text)}
    (hhead : ps.head?.map Prod.fst ≠ some .text) :
    s.tokens ++ place (Location.start.advance before) (s.pending.foldr consText ps) =
      s.found ++ place s.cursor ps := by
  by_cases hpending : s.pending = []
  · rw [h.cursor_eq, found, hpending]
    simp
  · have hempty : s.pending.isEmpty = false := List.isEmpty_eq_false_iff.mpr hpending
    rw [foldr_consText hpending hhead, place, found, hempty, h.begun_eq hpending, h.cursor_eq,
      Location.advance_append]
    simp

theorem step?_of_tag (h : Tracks source s before (value ++ rest))
    (htag : tagAt? (value ++ rest) = some ((kind, value), rest)) :
    ∃ s', s.step? source = some s' ∧ Tracks source s' (before ++ s.pending ++ value) rest ∧
      s'.tokens ++ s'.ahead (before ++ s.pending ++ value) rest =
        s.tokens ++ s.ahead before (value ++ rest) := by
  have hsize : tagSize? (value ++ rest) = some (kind, value.utf8Size) := by
    rw [tagSize?, htag, Option.map_some]
  have hkind : kind ≠ .text := by
    rintro rfl
    exact tagAt?_ne_text _ (value, rest) htag
  refine ⟨⟨s.found ++ [⟨kind, value, s.cursor⟩], [],
    Location.start.advance (before ++ s.pending ++ value),
    Location.start.advance (before ++ s.pending ++ value)⟩, ?_, ⟨?_, ?_, fun hne => absurd rfl hne⟩,
    ?_⟩
  · simp only [step?, h.after?_eq, hsize, h.slice?_eq, h.moved?_eq, Option.bind_eq_bind,
      Option.bind_some, Option.pure_def]
  · simpa using h.source_eq
  · simp
  · have hcursor : s.cursor.advance value =
        Location.start.advance (before ++ s.pending ++ value) := by
      rw [h.cursor_eq, ← Location.advance_append]
    rw [ahead, ahead, pieces_of_tagAt? htag, found_append_place h (by simpa using hkind), place,
      hcursor]
    simp

/-- A text is its first character, a stretch without an opening brace, and what comes after. -/
theorem exists_stretch (c : Char) (text : Text) :
    ∃ passed rest, text = passed ++ rest ∧ '\x7b' ∉ passed ∧
      stride? (c :: text) = some (Text.utf8Size (c :: passed)) := by
  have hafter : Text.after? (c :: text) c.utf8Size = some text := by
    have h := Text.after?_append [c] text
    rwa [Text.utf8Size_cons, Text.utf8Size_nil, Nat.add_zero] at h
  refine ⟨text.takeWhile (· ≠ '\x7b'), text.dropWhile (· ≠ '\x7b'),
    List.takeWhile_append_dropWhile.symm, fun hmem => ?_, ?_⟩
  · have hall : (text.takeWhile (· ≠ '\x7b')).all (· ≠ '\x7b') = true := List.all_takeWhile
    simpa using List.all_eq_true.mp hall _ hmem
  · simp [stride?, hafter, Text.utf8Size_cons]

/-- What a stretch of text holds after its first character begins no output or tag. -/
theorem pieces_stretch {c : Char} (h : tagAt? (c :: passed ++ rest) = none)
    (hpassed : '\x7b' ∉ passed) :
    pieces (c :: passed ++ rest) = (c :: passed).foldr consText (pieces rest) := by
  refine pieces_append fun front back heq hback => ?_
  cases front with
  | nil =>
    obtain rfl : c :: passed = back := heq
    exact h
  | cons d front =>
    obtain ⟨e, back, rfl⟩ := List.exists_cons_of_ne_nil hback
    refine tagAt?_eq_none_of_head? fun hhead => hpassed ?_
    have he : e = '\x7b' := Option.some.inj hhead
    rw [(List.cons.inj heq).2, he]
    simp

theorem step?_of_text {c : Char} (h : Tracks source s before (c :: passed ++ rest))
    (htag : tagAt? (c :: passed ++ rest) = none) (hpassed : '\x7b' ∉ passed)
    (hsize : stride? (c :: passed ++ rest) = some (Text.utf8Size (c :: passed))) :
    ∃ s', s.step? source = some s' ∧ Tracks source s' before rest ∧
      s'.tokens ++ s'.ahead before rest = s.tokens ++ s.ahead before (c :: passed ++ rest) := by
  have hnone : tagSize? (c :: passed ++ rest) = none := by rw [tagSize?, htag, Option.map_none]
  have hslice : Text.slice? (c :: passed ++ rest) 0 (Text.utf8Size (c :: passed)) =
      some (c :: passed) := Text.slice?_append [] (c :: passed) rest
  refine ⟨⟨s.tokens, s.pending ++ c :: passed, if s.pending.isEmpty then s.cursor else s.begun,
    Location.start.advance (before ++ s.pending ++ c :: passed)⟩, ?_, ⟨?_, ?_, fun _ => ?_⟩, ?_⟩
  · simp only [step?, h.after?_eq, hnone, hsize, hslice, h.moved?_eq, Option.bind_eq_bind,
      Option.bind_some, Option.pure_def]
  · simpa using h.source_eq
  · rw [List.append_assoc]
  · by_cases hpending : s.pending = []
    · simp [hpending, h.cursor_eq]
    · have hempty : s.pending.isEmpty = false := List.isEmpty_eq_false_iff.mpr hpending
      simp only [hempty]
      exact h.begun_eq hpending
  · rw [ahead, ahead, pieces_stretch htag hpassed, List.foldr_append]

/-- **One step of the scanner.** Short of the end of the source every part that the scanner names is
there, the cursor moves on, and the tokens that were ahead are found or still ahead. -/
theorem exists_step? (h : Tracks source s before rest) (hne : rest ≠ []) :
    ∃ s' before' rest', s.step? source = some s' ∧ Tracks source s' before' rest' ∧
      rest'.length < rest.length ∧
      s'.tokens ++ s'.ahead before' rest' = s.tokens ++ s.ahead before rest := by
  cases htag : tagAt? rest with
  | some found =>
    obtain ⟨⟨kind, value⟩, back⟩ := found
    have hlt := length_lt_of_tagAt? htag
    obtain rfl : rest = value ++ back := eq_of_tagAt? htag
    obtain ⟨s', hstep, htracks, hahead⟩ := step?_of_tag h htag
    exact ⟨s', _, back, hstep, htracks, hlt, hahead⟩
  | none =>
    obtain ⟨c, text, rfl⟩ := List.exists_cons_of_ne_nil hne
    obtain ⟨passed, back, rfl, hpassed, hsize⟩ := exists_stretch c text
    obtain ⟨s', hstep, htracks, hahead⟩ := step?_of_text h htag hpassed hsize
    have hlt : back.length < (c :: (passed ++ back)).length := by
      rw [List.length_cons, List.length_append]
      omega
    exact ⟨s', before, back, hstep, htracks, hlt, hahead⟩

/-! ### The whole run -/

theorem run?_of_tracks {n : Nat} (h : Tracks source s before rest) (hn : rest.length = n) :
    run? source s = some (s.tokens ++ s.ahead before rest) := by
  have hsize : source.utf8Size = s.cursor.offset + rest.utf8Size := by
    rw [h.offset_eq, h.source_eq, Text.utf8Size_append]
  induction n using Nat.strongRecOn generalizing s before rest with
  | ind n ih =>
    by_cases hrest : rest = []
    · subst hrest
      rw [run?_of_end (by simp [hsize]), ahead, pieces, found_append_place h (by simp)]
      simp [place]
    · have hpos : rest.utf8Size ≠ 0 := fun hzero => hrest (Text.utf8Size_eq_zero_iff.mp hzero)
      obtain ⟨s', before', rest', hstep, htracks, hlt, hahead⟩ := exists_step? h hrest
      rw [run?_of_step? (by omega) hstep, ih rest'.length (hn ▸ hlt) htracks rfl ?_, hahead]
      rw [htracks.offset_eq, htracks.source_eq, Text.utf8Size_append]

/-- The scanner finds the tokens of the source: it comes to the end, and every part that it names on
its way is there. -/
theorem run?_start (source : Text) : run? source start = some (tokenize source) := by
  rw [run?_of_tracks (tracks_start source) rfl]
  rfl

end Scanner

end Token

end PageTemplate
