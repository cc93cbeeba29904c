import PageTemplate.Proofs.Filter.Flags
import PageTemplate.Render
import PageTemplate.Template.Parse

/-!
# Filters that do not count, and outputs that notice them

Two lists of filters with one chain make one text of every value. An output notices the difference
all the same in one case: it keeps its source where its path leads to a container and no filter but
`raw` is written, and there it looks at the filters that the chain leaves out as well.

## Main definitions

* `PageTemplate.Render.KeepsSource` — an output that is left as it is.
* `PageTemplate.Render.MeetsContainer` — a path that leads to a container, and not within a loop
  item.
* `PageTemplate.Render.AgreeIn` — outputs that keep their sources together, or have one text.

## Main statements

* `PageTemplate.Render.agreeIn_iff_keepsSource` — outputs with one path and one chain agree exactly
  if they keep their sources together.
* `PageTemplate.Render.agreeIn_iff_isPlain` — they do so unless their path leads to a container and
  only one of them has no filter but `raw`.
* `PageTemplate.Template.render_ne_of_unknown_filter` — such outputs exist.
-/

namespace PageTemplate

namespace Render

/-! ### Outputs that keep their source -/

/-- The path of an output leads to a container, and not within the item of a loop. -/
def MeetsContainer (s : Scope) (path : Path) : Prop :=
  (path.isDotted && s.isLoopName path.head) = false ∧
    ∃ v, outputValue? s path = some v ∧ v.isContainer = true

/-- The output does without `json_encode`, and its path leads nowhere though it has a dot, or leads
to a container for which nothing but `raw` is written. A path within the item of a loop never keeps
the source. -/
def KeepsSource (s : Scope) (e : Expression) : Prop :=
  (e.path.isDotted && s.isLoopName e.path.head) = false ∧
    (Chain.ofFilters e.filters).jsonEncode = false ∧
      (outputValue? s e.path = none ∧ e.path.isDotted = true ∨
        (∃ v, outputValue? s e.path = some v ∧ v.isContainer = true) ∧ e.isPlain = true)

variable {s : Scope} {e e' : Expression}

theorem expressionText_of_keepsSource (h : KeepsSource s e) (source : Text) :
    expressionText s source e = source := by
  obtain ⟨hbound, hjson, ⟨hnone, hdotted⟩ | ⟨⟨v, hv, hcontainer⟩, hplain⟩⟩ := h
  · rw [expressionText, hbound, hjson, hnone, hdotted]
    rfl
  · rw [expressionText, hbound, hjson, hv, Bool.or_self, if_neg Bool.false_ne_true]
    simp only [hcontainer, hplain, Bool.and_self, if_true]

theorem expressionText_of_not_keepsSource (h : ¬KeepsSource s e) (source : Text) :
    expressionText s source e = (Chain.ofFilters e.filters).apply (outputValue? s e.path) := by
  rw [expressionText]
  split
  · rfl
  · next hchain =>
    obtain ⟨hbound, hjson⟩ := Bool.or_eq_false_iff.mp (eq_false_of_ne_true hchain)
    split
    · next hnone =>
      rw [hnone, if_neg fun hdotted => h ⟨hbound, hjson, .inl ⟨hnone, hdotted⟩⟩]
    · next v hv =>
      rw [hv, if_neg fun hkept => ?_]
      obtain ⟨hcontainer, hplain⟩ := Bool.and_eq_true_iff.mp hkept
      exact h ⟨hbound, hjson, .inr ⟨⟨v, hv, hcontainer⟩, hplain⟩⟩

/-- For a container the output looks at its filters, not at their chain. -/
theorem keepsSource_iff_isPlain (h : MeetsContainer s e.path) :
    KeepsSource s e ↔ e.isPlain = true := by
  obtain ⟨hbound, v, hv, hcontainer⟩ := h
  constructor
  · rintro ⟨-, -, ⟨hnone, -⟩ | ⟨-, hplain⟩⟩
    · rw [hv] at hnone
      cases hnone
    · exact hplain
  · intro hplain
    have hjson := Chain.isFlag_jsonEncode.eq_false_of_isPlain (by decide) hplain
    exact ⟨hbound, hjson, .inr ⟨⟨v, hv, hcontainer⟩, hplain⟩⟩

/-- Where no container is met, the filters count only through their chain. -/
theorem keepsSource_iff_of_not_meetsContainer (h : ¬MeetsContainer s e.path) :
    KeepsSource s e ↔ (e.path.isDotted && s.isLoopName e.path.head) = false ∧
      (Chain.ofFilters e.filters).jsonEncode = false ∧
        outputValue? s e.path = none ∧ e.path.isDotted = true := by
  constructor
  · rintro ⟨hbound, hjson, hnowhere | ⟨hcontainer, -⟩⟩
    · exact ⟨hbound, hjson, hnowhere⟩
    · exact absurd ⟨hbound, hcontainer⟩ h
  · exact fun ⟨hbound, hjson, hnowhere⟩ => ⟨hbound, hjson, .inl hnowhere⟩

/-! ### Outputs that agree -/

/-- Whatever the sources of two outputs, either both are left as their source, or both have one
text. -/
def AgreeIn (s : Scope) (e e' : Expression) : Prop :=
  ∀ source source', (expressionText s source e = source ∧ expressionText s source' e' = source') ∨
    expressionText s source e = expressionText s source' e'

/-- The place of a path does not count. -/
theorem agreeIn_iff_of_segments_eq (hpath : e.path.segments = e'.path.segments) :
    AgreeIn s e e' ↔ AgreeIn s e ⟨e.path, e'.filters⟩ := by
  obtain ⟨⟨segments, location⟩, filters⟩ := e
  obtain ⟨⟨segments', location'⟩, filters'⟩ := e'
  obtain rfl : segments = segments' := hpath
  exact Iff.rfl

theorem AgreeIn.symm (h : AgreeIn s e e') : AgreeIn s e' e :=
  fun source source' => (h source' source).imp And.symm Eq.symm

/-- An output that keeps its source agrees with no output of a fixed text. -/
theorem AgreeIn.keepsSource (h : AgreeIn s e e') (hkept : KeepsSource s e) : KeepsSource s e' := by
  refine Classical.byContradiction fun hnot => ?_
  -- two sources that are longer than the fixed text
  let fixed := (Chain.ofFilters e'.filters).apply (outputValue? s e'.path)
  have hlonger : 'x' :: fixed ≠ fixed := fun ht => by simpa using congrArg List.length ht
  have hagree := h ('x' :: fixed) ('x' :: fixed)
  rw [expressionText_of_keepsSource hkept, expressionText_of_not_keepsSource hnot] at hagree
  rcases hagree with ⟨-, heq⟩ | heq
  · exact hlonger heq.symm
  · exact hlonger heq

/-- Outputs with one path and one chain agree exactly if they keep their sources together. -/
theorem agreeIn_iff_keepsSource {path : Path} {filters filters' : List Filter}
    (hchain : Chain.ofFilters filters = Chain.ofFilters filters') :
    AgreeIn s ⟨path, filters⟩ ⟨path, filters'⟩ ↔
      (KeepsSource s ⟨path, filters⟩ ↔ KeepsSource s ⟨path, filters'⟩) := by
  refine ⟨fun h => ⟨h.keepsSource, h.symm.keepsSource⟩, fun h source source' => ?_⟩
  by_cases hkept : KeepsSource s ⟨path, filters⟩
  · exact .inl ⟨expressionText_of_keepsSource hkept source,
      expressionText_of_keepsSource (h.mp hkept) source'⟩
  · right
    rw [expressionText_of_not_keepsSource hkept,
      expressionText_of_not_keepsSource (mt h.mpr hkept), hchain]

/-- They keep their sources together unless they meet a container and only one of them has no
filter but `raw`. -/
theorem keepsSource_iff_keepsSource {path : Path} {filters filters' : List Filter}
    (hchain : Chain.ofFilters filters = Chain.ofFilters filters') :
    (KeepsSource s ⟨path, filters⟩ ↔ KeepsSource s ⟨path, filters'⟩) ↔
      (MeetsContainer s path →
        Expression.isPlain ⟨path, filters⟩ = Expression.isPlain ⟨path, filters'⟩) := by
  by_cases hmeets : MeetsContainer s path
  · have hplain (fs : List Filter) :
        KeepsSource s ⟨path, fs⟩ ↔ Expression.isPlain ⟨path, fs⟩ = true :=
      keepsSource_iff_isPlain hmeets
    rw [hplain, hplain, ← Bool.eq_iff_iff, forall_prop_of_true hmeets]
  · have hchain' (fs : List Filter) := keepsSource_iff_of_not_meetsContainer (s := s)
      (e := ⟨path, fs⟩) hmeets
    rw [hchain', hchain', hchain]
    exact ⟨fun _ h => absurd h hmeets, fun _ => Iff.rfl⟩

theorem isPlain_insert (path : Path) (front back : List Filter) {filter : Filter}
    (h : filter.name ∉ Chain.knownNames) :
    Expression.isPlain ⟨path, front ++ filter :: back⟩ = false := by
  have hraw : filter.name ≠ "raw" := fun heq => h (heq ▸ List.mem_cons_self)
  rw [Expression.isPlain, List.all_append, List.all_cons, beq_eq_false_iff_ne.mpr hraw,
    Bool.false_and, Bool.and_false]

/-- **When filters that do not count are not noticed.** Outputs with one path and one chain of
filters are both left as they are, or have one text, exactly unless their path leads to a container
and only one of them has no filter but `raw`. So a filter of an unknown name, wherever it is
inserted, is noticed exactly where a container has no other filter but `raw`. -/
theorem agreeIn_iff_isPlain (s : Scope) :
    (∀ e e' : Expression, e.path.segments = e'.path.segments →
      Chain.ofFilters e.filters = Chain.ofFilters e'.filters →
        (AgreeIn s e e' ↔ (MeetsContainer s e.path → e.isPlain = e'.isPlain))) ∧
    ∀ (path : Path) (front back : List Filter) (filter : Filter),
      filter.name ∉ Chain.knownNames →
        (AgreeIn s ⟨path, front ++ back⟩ ⟨path, front ++ filter :: back⟩ ↔
          (MeetsContainer s path → Expression.isPlain ⟨path, front ++ back⟩ = false)) := by
  constructor
  · intro e e' hpath hchain
    rw [agreeIn_iff_of_segments_eq hpath, agreeIn_iff_keepsSource hchain,
      keepsSource_iff_keepsSource hchain]
    rfl
  · intro path front back filter h
    rw [agreeIn_iff_keepsSource (Chain.ofFilters_insert front back h).symm,
      keepsSource_iff_keepsSource (Chain.ofFilters_insert front back h).symm,
      isPlain_insert path front back h]

/-- A name with a text, under filters in two orders, one of them with what does not count; and a
name with an object. -/
theorem agreeIn_iff_isPlain_user :
    let data : Value := .object [("name", .string "Al"), ("user", .object [("id", .int 1)])]
    let s := Scope.ofData [] data
    let e : Expression := ⟨⟨["name"], .start⟩, [⟨"upper", []⟩, ⟨"slice", ["1"]⟩]⟩
    let e' : Expression := ⟨⟨["name"], .start⟩,
      [⟨"slice", ["1"]⟩, ⟨"shout", []⟩, ⟨"slice", ["x"]⟩, ⟨"upper", []⟩]⟩
    e.path.segments = e'.path.segments ∧
    Chain.ofFilters e.filters = Chain.ofFilters e'.filters ∧
    AgreeIn s e e' ∧
    (("shout" : String).toList ∉ Chain.knownNames) ∧
    ¬AgreeIn s ⟨⟨["user"], .start⟩, []⟩ ⟨⟨["user"], .start⟩, [⟨"shout", []⟩]⟩ := by
  intro data s e e'
  have hpath : e.path.segments = e'.path.segments := rfl
  have hchain : Chain.ofFilters e.filters = Chain.ofFilters e'.filters := by decide
  have hunknown : (("shout" : String).toList ∉ Chain.knownNames) := by decide
  obtain ⟨hagree, hinsert⟩ := agreeIn_iff_isPlain s
  have hplain : e.isPlain = e'.isPlain := by decide
  refine ⟨hpath, hchain, (hagree e e' hpath hchain).mpr fun _ => hplain, hunknown, fun h => ?_⟩
  have hmeets : MeetsContainer s ⟨["user"], .start⟩ := ⟨rfl, _, rfl, rfl⟩
  exact absurd ((hinsert ⟨["user"], .start⟩ [] [] ⟨"shout", []⟩ hunknown).mp h hmeets) (by decide)

end Render

/-- An object is shown by its source, but has no text once an unknown filter is written. -/
theorem Template.render_ne_of_unknown_filter :
    let data : Value := .object [("user", .object [("name", .string "Al")])]
    Chain.ofFilters [] = Chain.ofFilters [⟨"nosuch", []⟩] ∧
    (Template.parse "\x7b\x7b user \x7d\x7d").render [] data = "\x7b\x7b user \x7d\x7d" ∧
    (Template.parse "\x7b\x7b user | nosuch \x7d\x7d").render [] data = "" ∧
    ¬Render.AgreeIn (Scope.ofData [] data) ⟨⟨["user"], .start⟩, []⟩
      ⟨⟨["user"], .start⟩, [⟨"nosuch", []⟩]⟩ := by
  intro data
  refine ⟨by decide, by decide +kernel, by decide +kernel, fun h => ?_⟩
  exact absurd (h ['x'] ['x']) (by decide +kernel)

end PageTemplate
