import PageTemplate.Text.Utf8

/-!
# Parts of a text by octets

A part of a text can be named by the octets before it and its own octets, but not every two numbers
name one: there must be as many octets, and a character must end where the part begins and where it
ends.

## Main definitions

* `PageTemplate.Text.cutOctets?` — the first octets of a text as text, and the text after them.
* `PageTemplate.Text.slice?` — the part of a text of so many octets after so many octets.

## Main statements

* `PageTemplate.Text.cutOctets?_eq_some_iff`, `PageTemplate.Text.slice?_eq_some_iff` — what numbers
  of octets name a part.
-/

namespace PageTemplate.Text

variable {s front back part : Text} {offset size : Nat}

/-! ### The number of octets -/

@[simp] theorem utf8Size_nil : utf8Size [] = 0 := rfl

theorem utf8Size_append (s t : Text) : utf8Size (s ++ t) = utf8Size s + utf8Size t := by
  have hfoldl (n : Nat) : t.foldl (fun n c => n + c.utf8Size) n = n + utf8Size t := by
    unfold utf8Size
    induction t generalizing n with
    | nil => rfl
    | cons c t ih => rw [List.foldl_cons, List.foldl_cons, ih, ih (0 + c.utf8Size)]; omega
  rw [utf8Size, List.foldl_append, hfoldl]
  rfl

theorem utf8Size_cons (c : Char) (s : Text) : utf8Size (c :: s) = c.utf8Size + utf8Size s := by
  rw [← List.singleton_append, utf8Size_append]
  exact congrArg (· + utf8Size s) (Nat.zero_add _)

theorem utf8Size_eq_zero_iff : utf8Size s = 0 ↔ s = [] := by
  cases s with
  | nil => simp
  | cons c s =>
    have := c.utf8Size_pos
    rw [utf8Size_cons]
    simp
    omega

theorem length_toUtf8 (s : Text) : (toUtf8 s).length = utf8Size s := by
  induction s with
  | nil => rfl
  | cons c s ih =>
    rw [toUtf8, List.flatMap_cons, List.length_append, String.length_utf8EncodeChar, utf8Size_cons]
    exact congrArg (c.utf8Size + ·) ih

/-! ### Parts -/

/-- The first octets of a text as text, and the text after them, if there are as many octets and a
character ends with them. -/
def cutOctets? : Nat → Text → Option (Text × Text)
  | 0, s => some ([], s)
  | _ + 1, [] => none
  | size + 1, c :: s =>
    if c.utf8Size ≤ size + 1 then
      (cutOctets? (size + 1 - c.utf8Size) s).map fun (front, back) => (c :: front, back)
    else none

/-- The text after its first octets, if there are as many and a character ends with them. -/
def after? (s : Text) (offset : Nat) : Option Text :=
  (cutOctets? offset s).map Prod.snd

/-- The part of a text of `size` octets after the first `offset` octets, if there are as many octets
and characters end with the last of these and of those. -/
def slice? (s : Text) (offset size : Nat) : Option Text :=
  (s.after? offset).bind fun rest => (cutOctets? size rest).map Prod.fst

theorem cutOctets?_append (front back : Text) :
    cutOctets? (utf8Size front) (front ++ back) = some (front, back) := by
  induction front with
  | nil => simp [cutOctets?]
  | cons c front ih =>
    obtain ⟨n, hn⟩ : ∃ n, utf8Size (c :: front) = n + 1 :=
      Nat.exists_eq_succ_of_ne_zero fun h => List.cons_ne_nil c front (utf8Size_eq_zero_iff.mp h)
    have hsub : n + 1 - c.utf8Size = utf8Size front := by rw [← hn, utf8Size_cons]; omega
    rw [hn, List.cons_append, cutOctets?, hsub, ih, if_pos (by rw [← hn, utf8Size_cons]; omega)]
    rfl

theorem cutOctets?_eq_some_iff :
    cutOctets? size s = some (front, back) ↔ s = front ++ back ∧ utf8Size front = size := by
  refine ⟨fun h => ?_, fun ⟨hs, hsize⟩ => hs ▸ hsize ▸ cutOctets?_append front back⟩
  induction s generalizing size front with
  | nil =>
    cases size with
    | zero => cases h; exact ⟨rfl, rfl⟩
    | succ size => cases h
  | cons c s ih =>
    cases size with
    | zero => cases h; exact ⟨rfl, rfl⟩
    | succ size =>
      rw [cutOctets?] at h
      split at h
      · next hle =>
        obtain ⟨⟨a, b⟩, hab, heq⟩ := Option.map_eq_some_iff.mp h
        obtain ⟨rfl, rfl⟩ := Prod.mk.inj heq
        obtain ⟨rfl, hsize⟩ := ih hab
        exact ⟨rfl, by rw [utf8Size_cons]; omega⟩
      · cases h

theorem after?_append (front back : Text) :
    after? (front ++ back) (utf8Size front) = some back := by
  rw [after?, cutOctets?_append, Option.map_some]

theorem slice?_append (front part back : Text) :
    slice? (front ++ part ++ back) (utf8Size front) (utf8Size part) = some part := by
  rw [slice?, List.append_assoc, after?_append, Option.bind_some, cutOctets?_append,
    Option.map_some]

/-- A part is named by the octets before it and its own octets, and other numbers name none. -/
theorem slice?_eq_some_iff :
    slice? s offset size = some part ↔
      ∃ front back, s = front ++ part ++ back ∧ utf8Size front = offset ∧ utf8Size part = size := by
  simp only [slice?, after?, Option.bind_eq_some_iff, Option.map_eq_some_iff, Prod.exists,
    cutOctets?_eq_some_iff]
  constructor
  · rintro ⟨rest, ⟨front, _, ⟨rfl, hfront⟩, rfl⟩, _, back, ⟨rfl, hpart⟩, rfl⟩
    exact ⟨front, back, (List.append_assoc ..).symm, hfront, hpart⟩
  · rintro ⟨front, back, rfl, hfront, hpart⟩
    exact ⟨part ++ back, ⟨front, part ++ back, ⟨List.append_assoc .., hfront⟩, rfl⟩, part, back,
      ⟨rfl, hpart⟩, rfl⟩

end PageTemplate.Text
