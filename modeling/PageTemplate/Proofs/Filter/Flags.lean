import PageTemplate.Expression
import PageTemplate.Filter.Chain

/-!
# The flags of a chain of filters

Each known filter other than `slice` sets a flag of its own, and no filter takes a flag back. So a
flag is set exactly if its name is written somewhere among the filters.

## Main definitions

* `PageTemplate.Chain.IsFlag` — a flag that the filters of one name set.
* `PageTemplate.Chain.knownNames` — the names of the filters that count.

## Main statements

* `PageTemplate.Chain.IsFlag.ofFilters` — a flag is set if its name is among the filters.
* `PageTemplate.Chain.ofFilters_insert` — filters of other names may be written anywhere.
-/

namespace PageTemplate

namespace Chain

/-- The flag is set by the filters of the name, and no other filter touches it. -/
structure IsFlag (flag : Chain → Bool) (name : Text) : Prop where
  empty : flag empty = false
  add : ∀ chain filter, flag (chain.add filter) = (flag chain || filter.name == name)

theorem IsFlag.foldl_add {flag : Chain → Bool} {name : Text} (h : IsFlag flag name)
    (filters : List Filter) (chain : Chain) :
    flag (filters.foldl Chain.add chain) = (flag chain || filters.any (·.name == name)) := by
  induction filters generalizing chain with
  | nil => simp
  | cons filter filters ih => rw [List.foldl_cons, ih, h.add, List.any_cons, Bool.or_assoc]

theorem IsFlag.ofFilters {flag : Chain → Bool} {name : Text} (h : IsFlag flag name)
    (filters : List Filter) : flag (ofFilters filters) = filters.any (·.name == name) := by
  rw [Chain.ofFilters, h.foldl_add, h.empty, Bool.false_or]

theorem flags_add (chain : Chain) (filter : Filter) :
    (chain.add filter).raw = (chain.raw || filter.name == "raw") ∧
      (chain.add filter).jsonEncode = (chain.jsonEncode || filter.name == "json_encode") ∧
      (chain.add filter).lower = (chain.lower || filter.name == "lower") ∧
      (chain.add filter).upper = (chain.upper || filter.name == "upper") ∧
      (chain.add filter).length = (chain.length || filter.name == "length") := by
  rw [Chain.add]
  repeat' split
  all_goals simp_all

theorem isFlag_raw : IsFlag Chain.raw "raw" :=
  ⟨rfl, fun chain filter => (flags_add chain filter).1⟩

theorem isFlag_jsonEncode : IsFlag Chain.jsonEncode "json_encode" :=
  ⟨rfl, fun chain filter => (flags_add chain filter).2.1⟩

theorem isFlag_lower : IsFlag Chain.lower "lower" :=
  ⟨rfl, fun chain filter => (flags_add chain filter).2.2.1⟩

theorem isFlag_upper : IsFlag Chain.upper "upper" :=
  ⟨rfl, fun chain filter => (flags_add chain filter).2.2.2.1⟩

theorem isFlag_length : IsFlag Chain.length "length" :=
  ⟨rfl, fun chain filter => (flags_add chain filter).2.2.2.2⟩

/-- Filters that are all `raw` set no other flag. -/
theorem IsFlag.eq_false_of_isPlain {flag : Chain → Bool} {name : Text} (h : IsFlag flag name)
    (hname : name ≠ "raw") {e : Expression} (hplain : e.isPlain = true) :
    flag (Chain.ofFilters e.filters) = false := by
  rw [h.ofFilters, List.any_eq_false]
  intro filter hfilter hset
  have hraw := List.all_eq_true.mp hplain filter hfilter
  exact hname ((beq_iff_eq.mp hset).symm.trans (beq_iff_eq.mp hraw))

/-- The names of the filters that count. -/
def knownNames : List Text :=
  ["raw", "json_encode", "lower", "upper", "length", "slice"]

theorem add_of_not_mem (chain : Chain) {filter : Filter} (h : filter.name ∉ knownNames) :
    chain.add filter = chain := by
  simp only [knownNames, List.mem_cons, List.not_mem_nil, or_false, not_or] at h
  simp only [add, h, if_false]

/-- **Filters of unknown names do not count**, wherever they stand. -/
theorem ofFilters_insert (front back : List Filter) {filter : Filter}
    (h : filter.name ∉ knownNames) :
    ofFilters (front ++ filter :: back) = ofFilters (front ++ back) := by
  simp only [ofFilters, List.foldl_append, List.foldl_cons, add_of_not_mem _ h]

end Chain

end PageTemplate
