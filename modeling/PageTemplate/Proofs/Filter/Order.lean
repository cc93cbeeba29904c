import Mathlib.Data.List.Perm.Basic
import PageTemplate.Proofs.Filter.Flags

/-!
# The order of filters

The filters of an output do not act in the order in which they are written. What counts is which of
the names that set a flag are there, and the last slice with proper arguments; so filters may be
moved, repeated, and mixed with filters that do not count, as long as that slice stays the last one.

## Main definitions

* `PageTemplate.Chain.lastSlice?` — the last slice with proper arguments.
* `PageTemplate.Chain.SameFilters` — lists of filters that agree in what counts.

## Main statements

* `PageTemplate.Chain.ofFilters_eq_iff` — lists of filters make the same chain exactly if they agree
  in what counts.
* `PageTemplate.Chain.apply_ofFilters_eq` — such lists give every value the same text.
-/

namespace PageTemplate

namespace Filter

/-- Whether the filter is a slice, with proper arguments or not. -/
def isSlice (filter : Filter) : Bool :=
  filter.name == "slice"

/-- The slice that the filter asks for, if it is one and its arguments are proper. -/
def slice? (filter : Filter) : Option Slice :=
  if filter.isSlice then Slice.ofArgs? filter.args else none

end Filter

attribute [ext] Chain

namespace Chain

variable {fs gs : List Filter}

/-! ### The slice of a chain -/

/-- The last slice with proper arguments among the filters. -/
def lastSlice? (filters : List Filter) : Option Slice :=
  (filters.filterMap Filter.slice?).getLast?

theorem slice_add (chain : Chain) (filter : Filter) :
    (chain.add filter).slice = filter.slice?.or chain.slice := by
  rw [Chain.add, Filter.slice?, Filter.isSlice]
  repeat' split
  all_goals simp_all

theorem lastSlice?_cons (filter : Filter) (filters : List Filter) :
    lastSlice? (filter :: filters) = (lastSlice? filters).or filter.slice? := by
  rw [lastSlice?, lastSlice?, List.filterMap_cons]
  cases filter.slice? with
  | none => rw [Option.or_none]
  | some slice => rw [List.getLast?_cons, Option.or_some]

/-- A slice takes the place of those before it, and a filter that is no slice leaves it there. -/
theorem slice_foldl_add (filters : List Filter) (chain : Chain) :
    (filters.foldl add chain).slice = (lastSlice? filters).or chain.slice := by
  induction filters generalizing chain with
  | nil => rfl
  | cons filter filters ih =>
    rw [List.foldl_cons, ih, slice_add, lastSlice?_cons, Option.or_assoc]

theorem slice_ofFilters (filters : List Filter) :
    (ofFilters filters).slice = lastSlice? filters := by
  rw [ofFilters, slice_foldl_add]
  exact Option.or_none

/-! ### What counts of a list of filters -/

/-- The names of the filters that set a flag. -/
def flagNames : List Text :=
  ["raw", "json_encode", "lower", "upper", "length"]

/-- The same names that set a flag are in both lists, and the last slice with proper arguments is
the same, or neither list has one. -/
structure SameFilters (fs gs : List Filter) : Prop where
  names : ∀ name ∈ flagNames, (∃ f ∈ fs, f.name = name) ↔ ∃ f ∈ gs, f.name = name
  slice : lastSlice? fs = lastSlice? gs

theorem IsFlag.ofFilters_eq_iff {flag : Chain → Bool} {name : Text} (h : IsFlag flag name) :
    flag (Chain.ofFilters fs) = flag (Chain.ofFilters gs) ↔
      ((∃ f ∈ fs, f.name = name) ↔ ∃ f ∈ gs, f.name = name) := by
  rw [h.ofFilters, h.ofFilters, Bool.eq_iff_iff]
  simp only [List.any_eq_true, beq_iff_eq]

theorem ofFilters_eq_iff : ofFilters fs = ofFilters gs ↔ SameFilters fs gs := by
  rw [Chain.ext_iff, isFlag_raw.ofFilters_eq_iff, isFlag_jsonEncode.ofFilters_eq_iff,
    isFlag_lower.ofFilters_eq_iff, isFlag_upper.ofFilters_eq_iff, isFlag_length.ofFilters_eq_iff,
    slice_ofFilters, slice_ofFilters]
  constructor
  · rintro ⟨hraw, hjson, hlower, hupper, hlength, hslice⟩
    refine ⟨?_, hslice⟩
    simp only [flagNames, List.forall_mem_cons]
    exact ⟨hraw, hjson, hlower, hupper, hlength, by simp⟩
  · rintro ⟨hnames, hslice⟩
    simp only [flagNames, List.forall_mem_cons] at hnames
    obtain ⟨hraw, hjson, hlower, hupper, hlength, -⟩ := hnames
    exact ⟨hraw, hjson, hlower, hupper, hlength, hslice⟩

theorem lastSlice?_filter (filters : List Filter) :
    lastSlice? (filters.filter Filter.isSlice) = lastSlice? filters := by
  rw [lastSlice?, lastSlice?, List.filterMap_filter]
  congr 1
  refine List.filterMap_congr fun filter _ => ?_
  rw [Filter.slice?]
  split <;> rfl

/-- Filters may change places as long as the slices keep their order. -/
theorem sameFilters_of_perm (hperm : fs.Perm gs)
    (hslices : fs.filter Filter.isSlice = gs.filter Filter.isSlice) :
    SameFilters fs gs where
  names name _ := by simp only [hperm.mem_iff]
  slice := by rw [← lastSlice?_filter fs, hslices, lastSlice?_filter]

/-- **The order of filters does not count, but for slices.** Two lists of filters in which the same
names set a flag, and in which the last slice with proper arguments is the same, make the same chain
and give every value, and every name without a value, the same text. So do two lists that differ in
the order of their filters, if the slices stand in the same order. -/
theorem apply_ofFilters_eq (fs gs : List Filter) :
    (SameFilters fs gs → ofFilters fs = ofFilters gs ∧
        ∀ value, (ofFilters fs).apply value = (ofFilters gs).apply value) ∧
      (fs.Perm gs → fs.filter Filter.isSlice = gs.filter Filter.isSlice →
        ofFilters fs = ofFilters gs ∧
          ∀ value, (ofFilters fs).apply value = (ofFilters gs).apply value) := by
  have hsame (h : SameFilters fs gs) : ofFilters fs = ofFilters gs ∧
      ∀ value, (ofFilters fs).apply value = (ofFilters gs).apply value := by
    have heq : ofFilters fs = ofFilters gs := ofFilters_eq_iff.mpr h
    exact ⟨heq, fun value => by rw [heq]⟩
  exact ⟨hsame, fun hperm hslices => hsame (sameFilters_of_perm hperm hslices)⟩

/-- A list with three slices, the last of them without proper arguments; a shorter list with the
same chain; and the same filters in another order. -/
theorem apply_ofFilters_eq_slices :
    let fs : List Filter := [⟨"upper", []⟩, ⟨"slice", ["5"]⟩, ⟨"slice", ["0", "-1"]⟩,
      ⟨"slice", ["x"]⟩, ⟨"nosuch", []⟩, ⟨"length", []⟩]
    let gs : List Filter := [⟨"length", []⟩, ⟨"slice", ["0", "-1", "x"]⟩, ⟨"upper", []⟩,
      ⟨"length", []⟩]
    let hs : List Filter := [⟨"length", []⟩, ⟨"slice", ["5"]⟩, ⟨"nosuch", []⟩,
      ⟨"slice", ["0", "-1"]⟩, ⟨"upper", []⟩, ⟨"slice", ["x"]⟩]
    (SameFilters fs gs ∧ ofFilters fs = ofFilters gs ∧
        ∀ value, (ofFilters fs).apply value = (ofFilters gs).apply value) ∧
      fs.Perm hs ∧ fs.filter Filter.isSlice = hs.filter Filter.isSlice ∧
      ofFilters fs = ofFilters hs ∧
        ∀ value, (ofFilters fs).apply value = (ofFilters hs).apply value := by
  intro fs gs hs
  have hsame : SameFilters fs gs := ⟨by decide, by decide⟩
  have hperm : fs.Perm hs := by decide
  have hslices : fs.filter Filter.isSlice = hs.filter Filter.isSlice := by decide
  exact ⟨⟨hsame, (apply_ofFilters_eq fs gs).1 hsame⟩, hperm, hslices,
    (apply_ofFilters_eq fs hs).2 hperm hslices⟩

end Chain

end PageTemplate
