import PageTemplate.Filter.Slice

/-!
# The bounds of a slice

The bounds of a slice are computed with 64-bit integers, and sums that leave their range are
clamped. For a text whose length is such an integer nothing is lost: a sum that is clamped lies so
far outside the text that only the end of the text counts. So a slice is cut out as if there were
no greatest and no least integer.

## Main definitions

* `PageTemplate.Slice.exactFirst`, `PageTemplate.Slice.exactLast` — the bounds of a slice, computed
  with integers of any size.

## Main statements

* `PageTemplate.Slice.toInt_first`, `PageTemplate.Slice.toInt_last` — the bounds are exact.
* `PageTemplate.Slice.cut_eq_extract` — a slice has the characters between its exact bounds, which
  lie within the text.
-/

namespace PageTemplate.Slice

/-- Where the slice begins in a text of `total` characters, computed with integers of any size. -/
def exactFirst (s : Slice) (total : Int) : Int :=
  if s.start.toInt < 0 then max 0 (total + s.start.toInt) else min s.start.toInt total

/-- Where the slice ends in a text of `total` characters, computed with integers of any size. -/
def exactLast (s : Slice) (total : Int) : Int :=
  match s.length with
  | none => total
  | some length =>
    if length.toInt < 0 then max (s.exactFirst total) (total + length.toInt)
    else min total (s.exactFirst total + length.toInt)

/-! ### Words as integers -/

section Words

variable (a b : Int64)

theorem toInt_max : (max a b).toInt = max a.toInt b.toInt := by
  have hmax : max a b = if a ≤ b then b else a := rfl
  rw [hmax, Int.max_def]
  simp only [Int64.le_iff_toInt_le, apply_ite Int64.toInt]

theorem toInt_min : (min a b).toInt = min a.toInt b.toInt := by
  have hmin : min a b = if a ≤ b then a else b := rfl
  rw [hmin, Int.min_def]
  simp only [Int64.le_iff_toInt_le, apply_ite Int64.toInt]

theorem toInt_addClamped :
    (addClamped a b).toInt =
      max Int64.minValue.toInt (min Int64.maxValue.toInt (a.toInt + b.toInt)) := by
  have hmin : Int64.minValue.toInt = -2 ^ 63 := Int64.toInt_minValue
  have hmax : Int64.maxValue.toInt = 2 ^ 63 - 1 := Int64.toInt_maxValue
  exact Int64.toInt_ofInt_of_le (by omega) (by omega)

end Words

/-! ### The bounds -/

variable (s : Slice)

theorem exactFirst_mem {total : Int} (h : 0 ≤ total) :
    0 ≤ s.exactFirst total ∧ s.exactFirst total ≤ total := by
  unfold exactFirst
  split <;> omega

theorem exactLast_mem {total : Int} (h : 0 ≤ total) :
    s.exactFirst total ≤ s.exactLast total ∧ s.exactLast total ≤ total := by
  obtain ⟨hfirst, hle⟩ := s.exactFirst_mem h
  unfold exactLast
  split
  · exact ⟨hle, Int.le_refl total⟩
  · split <;> omega

variable {total : Int64}

/-- A sum that is clamped lies before the text, so the slice begins with the text. -/
theorem toInt_first (h : 0 ≤ total.toInt) : (s.first total).toInt = s.exactFirst total.toInt := by
  unfold first exactFirst
  simp only [Int64.lt_iff_toInt_lt, Int64.toInt_zero]
  split
  · have hmin := s.start.minValue_le_toInt
    have hmax := total.toInt_le
    rw [toInt_max, toInt_addClamped, Int64.toInt_zero]
    omega
  · exact toInt_min s.start total

/-- A sum that is clamped lies behind the text, or before the beginning of the slice. -/
theorem toInt_last (h : 0 ≤ total.toInt) : (s.last total).toInt = s.exactLast total.toInt := by
  have hfirst := s.toInt_first h
  obtain ⟨hge, hle⟩ := s.exactFirst_mem h
  have hmax := total.toInt_le
  unfold last exactLast
  cases s.length with
  | none => rfl
  | some length =>
    have hlength := length.minValue_le_toInt
    simp only [Int64.lt_iff_toInt_lt, Int64.toInt_zero]
    split
    · rw [toInt_max, toInt_addClamped, hfirst]
      omega
    · rw [toInt_min, toInt_addClamped, hfirst]
      omega

/-- **A slice has the characters between its exact bounds.** For every text whose length is a 64-bit
integer, the bounds of the slice are those that integers of any size give. They are bounds of a part
of the text, and the slice is that part. -/
theorem cut_eq_extract (text : Text) (h : (text.length : Int) ≤ Int64.maxValue.toInt) :
    let total := (text.length : Int)
    (0 ≤ s.exactFirst total ∧ s.exactFirst total ≤ s.exactLast total ∧ s.exactLast total ≤ total) ∧
    (s.first (Int64.ofNat text.length)).toInt = s.exactFirst total ∧
    (s.last (Int64.ofNat text.length)).toInt = s.exactLast total ∧
    s.cut text = text.extract (s.exactFirst total).toNat (s.exactLast total).toNat := by
  intro total
  have hmax : Int64.maxValue.toInt = 2 ^ 63 - 1 := Int64.toInt_maxValue
  have htotal : (Int64.ofNat text.length).toInt = total := Int64.toInt_ofNat_of_lt (by omega)
  have hnonneg : 0 ≤ (Int64.ofNat text.length).toInt := by omega
  have hfirst := s.toInt_first hnonneg
  have hlast := s.toInt_last hnonneg
  rw [htotal] at hfirst hlast hnonneg
  refine ⟨⟨(s.exactFirst_mem hnonneg).1, s.exactLast_mem hnonneg⟩, hfirst, hlast, ?_⟩
  simp only [cut, hfirst, hlast]
  exact List.drop_take

/-- The least and the greatest integer as start and length, where both sums are clamped. -/
theorem cut_eq_extract_outermost :
    let text : Text := "abcdef"
    let start : Slice := ⟨Int64.minValue, some 4⟩
    let stop : Slice := ⟨2, some Int64.maxValue⟩
    (text.length : Int) ≤ Int64.maxValue.toInt ∧
      start.cut text = "abcd" ∧ stop.cut text = "cdef" := by
  intro text start stop
  have h : (text.length : Int) ≤ Int64.maxValue.toInt := by decide
  refine ⟨h, ?_, ?_⟩
  · rw [(start.cut_eq_extract text h).2.2.2]
    decide
  · rw [(stop.cut_eq_extract text h).2.2.2]
    decide

end PageTemplate.Slice
