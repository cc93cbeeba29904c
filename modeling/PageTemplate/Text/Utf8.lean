import PageTemplate.Text.Basic

/-!
# Text as octets

UTF-8 in both directions. Reading octets never fails in itself: it gives the characters and, for
each maximal part that begins no character, a gap. A strict reader refuses gaps, a lenient one
shows each of them as U+FFFD.

## Main definitions

* `PageTemplate.Text.toUtf8`, `PageTemplate.Text.utf8Size` — the octets of a text and their number.
* `PageTemplate.Text.ofUtf8?` — the text of well-formed octets.
* `PageTemplate.Text.ofUtf8Lossy` — the text of any octets.
-/

namespace PageTemplate.Text

/-- The octets of a file or of a text. -/
abbrev Octets := List UInt8

/-- The octets of a text. -/
def toUtf8 (s : Text) : Octets :=
  s.flatMap String.utf8EncodeChar

/-- The number of octets of a text. -/
def utf8Size (s : Text) : Nat :=
  s.foldl (fun n c => n + c.utf8Size) 0

/-- The number of octets that follow a first octet, and the least and the greatest that may come
next; none follow an octet of ASCII, and no character begins with any other octet. -/
private def following (lead : UInt8) : Option (Nat × UInt8 × UInt8) :=
  if lead < 0x80 then some (0, 0x80, 0xBF)
  else if lead < 0xC2 then none
  else if lead < 0xE0 then some (1, 0x80, 0xBF)
  else if lead == 0xE0 then some (2, 0xA0, 0xBF)
  else if lead == 0xED then some (2, 0x80, 0x9F)
  else if lead < 0xF0 then some (2, 0x80, 0xBF)
  else if lead == 0xF0 then some (3, 0x90, 0xBF)
  else if lead < 0xF4 then some (3, 0x80, 0xBF)
  else if lead == 0xF4 then some (3, 0x80, 0x8F)
  else none

/-- The bits that a first octet contributes when `count` octets follow it. -/
private def leadBits (lead : UInt8) : Nat → Nat
  | 0 => lead.toNat
  | 1 => lead.toNat % 0x20
  | 2 => lead.toNat % 0x10
  | _ => lead.toNat % 0x08

/-- Reads `count` more octets onto the bits read so far, the next one between `low` and `high`:
the code point, or nothing at the first octet that does not fit, and the octets not read. -/
private def continued (bits : Nat) (low high : UInt8) : Nat → Octets → Option Nat × Octets
  | 0, rest => (some bits, rest)
  | _ + 1, [] => (none, [])
  | count + 1, b :: rest =>
    if low ≤ b && b ≤ high then
      continued (bits * 0x40 + b.toNat % 0x40) 0x80 0xBF count rest
    else
      (none, b :: rest)

private theorem length_continued_le (bits : Nat) (low high : UInt8) (count : Nat) (rest : Octets) :
    (continued bits low high count rest).2.length ≤ rest.length := by
  induction count generalizing bits low high rest with
  | zero => simp [continued]
  | succ count ih =>
    cases rest with
    | nil => simp [continued]
    | cons b rest =>
      simp only [continued]
      split
      · exact Nat.le_succ_of_le (ih _ _ _ _)
      · exact Nat.le_refl _

/-- The characters of a sequence of octets, with a gap for every maximal part that begins no
character. -/
def readUtf8 : Octets → List (Option Char)
  | [] => []
  | lead :: rest =>
    match following lead with
    | none => none :: readUtf8 rest
    | some (count, low, high) =>
      let read := continued (leadBits lead count) low high count rest
      read.1.map Char.ofNat :: readUtf8 read.2
termination_by octets => octets.length
decreasing_by
  · simp
  · simpa using Nat.lt_succ_of_le (length_continued_le _ _ _ _ _)

/-- The text of the octets, if they are well-formed. -/
def ofUtf8? (octets : Octets) : Option Text :=
  (readUtf8 octets).mapM id

/-- The text of the octets, with U+FFFD for every part that is not well-formed. -/
def ofUtf8Lossy (octets : Octets) : Text :=
  (readUtf8 octets).map (·.getD '\uFFFD')

end PageTemplate.Text
