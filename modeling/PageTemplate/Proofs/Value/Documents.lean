import PageTemplate.Proofs.Decimal.Nearest
import PageTemplate.Value

/-!
# Values and documents

Values and documents have the same containers, texts and truth values; only their numbers differ. A
value may hold a floating-point number that is not finite, for which documents have nothing but
null. A document may hold a whole number of 64 bits without sign, for which values have nothing but
a floating-point number. Everything else is the same after a way there and back, at any depth and in
the same order.

## Main definitions

* `PageTemplate.Json.numbers` — the numbers of a document, at any depth.
* `PageTemplate.Json.mapNumbers` — the document with other numbers in the same places.
* `PageTemplate.Json.Number.stored` — the number that a value keeps of a number of a document.
* `PageTemplate.Value.finite` — the value with null for what is not finite.

## Main statements

* `PageTemplate.Value.ofJson_toJson` — from a value to a document and back.
* `PageTemplate.Value.toJson_ofJson` — from a document to a value and back.
* `PageTemplate.Value.documents_lossless` — what is lost on these ways.
-/

namespace PageTemplate

/-! ### The numbers of a document -/

namespace Json

mutual

/-- The numbers of a document. -/
def numbers : Json → List Number
  | .null => []
  | .bool _ => []
  | .number n => [n]
  | .string _ => []
  | .array items => numbersItems items
  | .object members => numbersMembers members

/-- The numbers of the items of an array. -/
def numbersItems : List Json → List Number
  | [] => []
  | item :: items => numbers item ++ numbersItems items

/-- The numbers of the members of an object. -/
def numbersMembers : List (Text × Json) → List Number
  | [] => []
  | (_, value) :: members => numbers value ++ numbersMembers members

end

section

variable (f : Number → Number)

mutual

/-- The document with `f n` in the place of each number `n`. -/
def mapNumbers : Json → Json
  | .null => .null
  | .bool b => .bool b
  | .number n => .number (f n)
  | .string s => .string s
  | .array items => .array (mapNumbersItems items)
  | .object members => .object (mapNumbersMembers members)

/-- The items of an array with other numbers in the same places. -/
def mapNumbersItems : List Json → List Json
  | [] => []
  | item :: items => mapNumbers item :: mapNumbersItems items

/-- The members of an object with other numbers in the same places. -/
def mapNumbersMembers : List (Text × Json) → List (Text × Json)
  | [] => []
  | (key, value) :: members => (key, mapNumbers value) :: mapNumbersMembers members

end

mutual

/-- A document stays the same exactly when each of its numbers does. -/
theorem mapNumbers_eq_self_iff : (j : Json) → (j.mapNumbers f = j ↔ ∀ n ∈ j.numbers, f n = n)
  | .null => by simp [mapNumbers, numbers]
  | .bool _ => by simp [mapNumbers, numbers]
  | .number _ => by simp [mapNumbers, numbers]
  | .string _ => by simp [mapNumbers, numbers]
  | .array items => by simp [mapNumbers, numbers, mapNumbersItems_eq_self_iff items]
  | .object members => by simp [mapNumbers, numbers, mapNumbersMembers_eq_self_iff members]

theorem mapNumbersItems_eq_self_iff : (items : List Json) →
    (mapNumbersItems f items = items ↔ ∀ n ∈ numbersItems items, f n = n)
  | [] => by simp [mapNumbersItems, numbersItems]
  | item :: items => by
    simp only [mapNumbersItems, numbersItems, List.cons.injEq, List.forall_mem_append,
      mapNumbers_eq_self_iff item, mapNumbersItems_eq_self_iff items]

theorem mapNumbersMembers_eq_self_iff : (members : List (Text × Json)) →
    (mapNumbersMembers f members = members ↔ ∀ n ∈ numbersMembers members, f n = n)
  | [] => by simp [mapNumbersMembers, numbersMembers]
  | (key, value) :: members => by
    simp only [mapNumbersMembers, numbersMembers, List.cons.injEq, Prod.mk.injEq, true_and,
      List.forall_mem_append, mapNumbers_eq_self_iff value, mapNumbersMembers_eq_self_iff members]

end

end

/-! ### Numbers that values keep -/

/-- The whole numbers of documents have 64 bits with sign unless they are too large for it. -/
theorem isInt64_iff {n : Int} (h : isWhole n = true) :
    Decimal.isInt64 n = true ↔ n ≤ Int64.maxValue.toInt := by
  simp only [isWhole, Decimal.isInt64, Bool.and_eq_true, decide_eq_true_eq] at h ⊢
  exact and_iff_right h.1

/-- The whole numbers that are too large take up all 64 bits of a word without sign. -/
theorem isNearest_toFloat {n : Int} (h : isWhole n = true) (hn : Decimal.isInt64 n ≠ true) :
    Decimal.IsNearest (UInt64.ofNat n.toNat).toFloat n := by
  have hsize : UInt64.size = 2 ^ 64 := rfl
  rw [ne_eq, isInt64_iff h, Int64.toInt_maxValue] at hn
  simp only [isWhole, hsize, Bool.and_eq_true, decide_eq_true_eq] at h
  have hcast : (n : ℚ) = (n.toNat : ℕ) := by
    rw [← Int.cast_natCast, Int.toNat_of_nonneg (by omega)]
  rw [hcast]
  exact Decimal.isNearest_toFloat (by omega) (by omega)

/-- The number that a value keeps of a number of a document: a whole number becomes a floating-point
number if it does not have 64 bits with sign. -/
def Number.stored : Number → Number
  | .whole n h =>
    if hn : Decimal.isInt64 n = true then .whole n h
    else .real (UInt64.ofNat n.toNat).toFloat (isNearest_toFloat h hn).isFinite
  | .real x h => .real x h

namespace Number

theorem stored_whole_of_le {n : Int} (h : isWhole n = true) (hn : n ≤ Int64.maxValue.toInt) :
    stored (.whole n h) = .whole n h :=
  dif_pos ((isInt64_iff h).mpr hn)

/-- A whole number that is too large becomes the nearest floating-point number. -/
theorem exists_stored_whole {n : Int} (h : isWhole n = true) (hn : Int64.maxValue.toInt < n) :
    ∃ x hx, stored (.whole n h) = .real x hx ∧ Decimal.IsNearest x n := by
  have hn' : Decimal.isInt64 n ≠ true := by
    rw [ne_eq, isInt64_iff h]
    exact not_le.mpr hn
  exact ⟨_, (isNearest_toFloat h hn').isFinite, dif_neg hn', isNearest_toFloat h hn'⟩

theorem stored_whole_eq_self_iff {n : Int} (h : isWhole n = true) :
    stored (.whole n h) = .whole n h ↔ n ≤ Int64.maxValue.toInt := by
  refine ⟨fun heq => ?_, stored_whole_of_le h⟩
  by_contra hn
  obtain ⟨x, hx, hreal, -⟩ := exists_stored_whole h (not_le.mp hn)
  rw [hreal] at heq
  nomatch heq

end Number

end Json

/-! ### From values to documents and back -/

namespace Value

mutual

/-- The value with null for each floating-point number that is not finite. -/
def finite : Value → Value
  | .null => .null
  | .bool b => .bool b
  | .int n => .int n
  | .float x => if x.isFinite then .float x else .null
  | .string s => .string s
  | .array items => .array (finiteItems items)
  | .object entries => .object (finiteEntries entries)

/-- The items of an array with null for what is not finite. -/
def finiteItems : List Value → List Value
  | [] => []
  | item :: items => finite item :: finiteItems items

/-- The entries of an object with null for what is not finite. -/
def finiteEntries : List (Text × Value) → List (Text × Value)
  | [] => []
  | (key, value) :: entries => (key, finite value) :: finiteEntries entries

end

theorem ofNumber_toInt (n : Int64) : ofNumber (.whole n.toInt (isWhole_toInt n)) = .int n := by
  have hn : Decimal.isInt64 n.toInt = true :=
    (Json.isInt64_iff (isWhole_toInt n)).mpr n.toInt_le
  rw [ofNumber, if_pos hn, Int64.ofInt_toInt]

theorem ofJson_ofFloat (x : Float) :
    ofJson (Json.ofFloat x) = if x.isFinite then .float x else .null := by
  unfold Json.ofFloat
  split <;> rfl

mutual

/-- A value becomes a document and is read back: only what is not finite is lost. -/
theorem ofJson_toJson : (v : Value) → ofJson (toJson v) = v.finite
  | .null => rfl
  | .bool _ => rfl
  | .int n => ofNumber_toInt n
  | .float x => ofJson_ofFloat x
  | .string _ => rfl
  | .array items => by rw [toJson, ofJson, ofJsonItems_toJsonItems items, finite]
  | .object entries => by rw [toJson, ofJson, ofJsonMembers_toJsonMembers entries, finite]

theorem ofJsonItems_toJsonItems : (items : List Value) →
    ofJsonItems (toJsonItems items) = finiteItems items
  | [] => rfl
  | item :: items => by
    rw [toJsonItems, ofJsonItems, ofJson_toJson item, ofJsonItems_toJsonItems items, finiteItems]

theorem ofJsonMembers_toJsonMembers : (entries : List (Text × Value)) →
    ofJsonMembers (toJsonMembers entries) = finiteEntries entries
  | [] => rfl
  | (key, value) :: entries => by
    rw [toJsonMembers, ofJsonMembers, ofJson_toJson value, ofJsonMembers_toJsonMembers entries,
      finiteEntries]

end

/-! ### From documents to values and back -/

theorem toInt_ofInt {n : Int} (hn : Decimal.isInt64 n = true) : (Int64.ofInt n).toInt = n := by
  simp only [Decimal.isInt64, Int64.toInt_minValue, Int64.toInt_maxValue, Bool.and_eq_true,
    decide_eq_true_eq] at hn
  exact Int64.toInt_ofInt_of_le (by omega) (by omega)

theorem toJson_ofNumber : (n : Json.Number) → toJson (ofNumber n) = .number n.stored
  | .whole n h => by
    by_cases hn : Decimal.isInt64 n = true
    · simp only [ofNumber, if_pos hn, toJson, toInt_ofInt hn, Json.Number.stored, dif_pos hn]
    · simp only [ofNumber, if_neg hn, toJson, Json.Number.stored, dif_neg hn, Json.ofFloat,
        dif_pos (Json.isNearest_toFloat h hn).isFinite]
  | .real x h => dif_pos h

mutual

/-- A document is read and written back: its numbers are those that values keep. -/
theorem toJson_ofJson : (j : Json) → toJson (ofJson j) = j.mapNumbers Json.Number.stored
  | .null => rfl
  | .bool _ => rfl
  | .number n => toJson_ofNumber n
  | .string _ => rfl
  | .array items => by rw [ofJson, toJson, toJsonItems_ofJsonItems items, Json.mapNumbers]
  | .object members => by rw [ofJson, toJson, toJsonMembers_ofJsonMembers members, Json.mapNumbers]

theorem toJsonItems_ofJsonItems : (items : List Json) →
    toJsonItems (ofJsonItems items) = Json.mapNumbersItems Json.Number.stored items
  | [] => rfl
  | item :: items => by
    rw [ofJsonItems, toJsonItems, toJson_ofJson item, toJsonItems_ofJsonItems items,
      Json.mapNumbersItems]

theorem toJsonMembers_ofJsonMembers : (members : List (Text × Json)) →
    toJsonMembers (ofJsonMembers members) = Json.mapNumbersMembers Json.Number.stored members
  | [] => rfl
  | (key, value) :: members => by
    rw [ofJsonMembers, toJsonMembers, toJson_ofJson value, toJsonMembers_ofJsonMembers members,
      Json.mapNumbersMembers]

end

/-- A document stays the same exactly when none of its whole numbers is too large. -/
theorem toJson_ofJson_eq_self_iff (j : Json) : toJson (ofJson j) = j ↔
    ∀ n h, Json.Number.whole n h ∈ j.numbers → n ≤ Int64.maxValue.toInt := by
  rw [toJson_ofJson, Json.mapNumbers_eq_self_iff]
  constructor
  · intro hstored n h hmem
    exact (Json.Number.stored_whole_eq_self_iff h).mp (hstored _ hmem)
  · rintro hle (⟨n, h⟩ | ⟨x, h⟩) hmem
    · exact Json.Number.stored_whole_of_le h (hle n h hmem)
    · rfl

/-- **Values and documents convert without loss but for two kinds of numbers.** A floating-point
number of a value that is not finite becomes null. A whole number of a document that is too large for
64 bits with sign becomes the floating-point number nearest to it. -/
theorem documents_lossless :
    (∀ v : Value, ofJson (toJson v) = v.finite) ∧
    (∀ j : Json, toJson (ofJson j) = j ↔
      ∀ n h, Json.Number.whole n h ∈ j.numbers → n ≤ Int64.maxValue.toInt) ∧
    (∀ j : Json, toJson (ofJson j) = j.mapNumbers Json.Number.stored) ∧
    (∀ x h, Json.Number.stored (.real x h) = .real x h) ∧
    (∀ n h, n ≤ Int64.maxValue.toInt → Json.Number.stored (.whole n h) = .whole n h) ∧
    ∀ n h, Int64.maxValue.toInt < n →
      ∃ x hx, Json.Number.stored (.whole n h) = .real x hx ∧ Decimal.IsNearest x n :=
  ⟨ofJson_toJson, toJson_ofJson_eq_self_iff, toJson_ofJson, fun _ _ => rfl,
    fun _ => Json.Number.stored_whole_of_le, fun _ => Json.Number.exists_stored_whole⟩

/-- In an array of an object, `2 ^ 63 + 1` becomes the floating-point number that stands for
`2 ^ 63`, and `2 ^ 63 - 1` stays as it is. -/
theorem documents_lossless_sizes :
    ∃ x hx, toJson (ofJson (.object [("sizes".toList, .array
        [.number (.whole 9223372036854775809 rfl), .number (.whole 9223372036854775807 rfl)])])) =
      .object [("sizes".toList, .array
        [.number (.real x hx), .number (.whole 9223372036854775807 rfl)])] ∧
    Decimal.IsNearest x (9223372036854775809 : Int) ∧ Decimal.exact x = 2 ^ 63 := by
  obtain ⟨-, -, hmap, -, hkept, hnearest⟩ := documents_lossless
  obtain ⟨x, hx, hstored, hx'⟩ := hnearest 9223372036854775809 (by decide) (by decide)
  have hbelow := hkept 9223372036854775807 (by decide) (by decide)
  have hfloat : x = (UInt64.ofNat 9223372036854775809).toFloat :=
    (Json.Number.real.inj hstored).symm
  have hsignificand : Decimal.significand x = 2 ^ 52 := by
    rw [hfloat]
    decide +kernel
  have hexponent : Decimal.exponent x = 11 := by
    rw [hfloat]
    decide +kernel
  refine ⟨x, hx, ?_, hx', ?_⟩
  · rw [hmap]
    simp only [Json.mapNumbers, Json.mapNumbersItems, Json.mapNumbersMembers, hstored, hbelow]
  · rw [Decimal.exact, hsignificand, hexponent]
    norm_num

end Value

end PageTemplate
