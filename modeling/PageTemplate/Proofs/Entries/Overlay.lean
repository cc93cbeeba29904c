import PageTemplate.Entries

/-!
# Entries put over other entries

Entries are put over other entries key by key: a key of both takes its value from the upper ones
and keeps its place among the lower ones, and a key of the upper ones alone comes after those of
the lower ones.

## Main definitions

* `PageTemplate.Entries.overlay` — entries with other entries put over them.

## Main statements

* `PageTemplate.Entries.get?_overlay` — a key has its upper value, or else its lower one.
* `PageTemplate.Entries.get?_insertAll` — of several values inserted for a key the last counts.
* `PageTemplate.Entries.keys_insertAll` — new keys come in the order of their first insertion, and
  none is moved.
-/

namespace PageTemplate.Entries

variable {α : Type}

/-- The entries `m` with those of `above` put over them. -/
def overlay (m above : Entries α) : Entries α :=
  (m.map fun (key, value) => (key, (get? above key).getD value)) ++
    above.filter fun (key, _) => !(keys m).contains key

@[simp] theorem keys_nil : keys ([] : Entries α) = [] := rfl

@[simp] theorem keys_cons (k : Text) (v : α) (m : Entries α) :
    keys ((k, v) :: m) = k :: keys m := rfl

/-! ### Looking up in changed entries -/

theorem get?_append (m n : Entries α) (key : Text) :
    get? (m ++ n) key = (get? m key).or (get? n key) := by
  induction m with
  | nil => rfl
  | cons entry m ih =>
    obtain ⟨k, v⟩ := entry
    by_cases h : key = k
    · simp [get?_cons, h]
    · simp [get?_cons, h, ih]

theorem get?_eq_none_iff (m : Entries α) (key : Text) : get? m key = none ↔ key ∉ keys m := by
  induction m with
  | nil => simp
  | cons entry m ih =>
    obtain ⟨k, v⟩ := entry
    by_cases h : key = k
    · simp [get?_cons, h]
    · rw [get?_cons, if_neg h, ih, keys_cons, List.mem_cons, not_or]
      exact ⟨fun hm => ⟨h, hm⟩, And.right⟩

/-- If no key is repeated, looking a key up finds its entry. -/
theorem get?_eq_some_iff {m : Entries α} (hm : (keys m).Nodup) (key : Text) (value : α) :
    get? m key = some value ↔ (key, value) ∈ m := by
  induction m with
  | nil => simp
  | cons entry m ih =>
    obtain ⟨k, v⟩ := entry
    obtain ⟨hk, hm⟩ := List.nodup_cons.mp hm
    rw [get?_cons, List.mem_cons, Prod.mk.injEq]
    by_cases h : key = k
    · -- the key does not come again
      subst h
      have hrest : (key, value) ∉ m := fun hmem => hk (List.mem_map.mpr ⟨_, hmem, rfl⟩)
      simp [hrest, eq_comm]
    · simp [h, ih hm]

theorem nodup_keys_reverse {m : Entries α} (hm : (keys m).Nodup) : (keys m.reverse).Nodup :=
  (m.reverse_perm.map Prod.fst).nodup_iff.mpr hm

/-- Values changed by a function of key and value are looked up before the change. -/
theorem get?_map (f : Text → α → α) (m : Entries α) (key : Text) :
    get? (m.map fun (k, v) => (k, f k v)) key = (get? m key).map (f key) := by
  induction m with
  | nil => rfl
  | cons entry m ih =>
    obtain ⟨k, v⟩ := entry
    by_cases h : key = k
    · simp [get?_cons, h]
    · simp [get?_cons, h, ih]

theorem get?_filter (p : Text → Bool) (m : Entries α) (key : Text) :
    get? (m.filter fun (k, _) => p k) key = if p key then get? m key else none := by
  induction m with
  | nil => simp
  | cons entry m ih =>
    obtain ⟨k, v⟩ := entry
    by_cases h : key = k
    · subst h
      by_cases hp : p key <;> simp [get?_cons, hp, ih]
    · by_cases hp : p k <;> simp [get?_cons, hp, ih, h]

/-- **A key has its upper value, or else its lower one.** -/
theorem get?_overlay (m above : Entries α) (key : Text) :
    get? (m.overlay above) key = (get? above key).or (get? m key) := by
  rw [overlay, get?_append, get?_map (fun k v => (get? above k).getD v),
    get?_filter (fun k => !(keys m).contains k)]
  cases hm : get? m key with
  | none =>
    have hkey : key ∉ keys m := (get?_eq_none_iff m key).mp hm
    simp [hkey]
  | some value => cases get? above key <;> rfl

@[simp] theorem overlay_nil (m : Entries α) : m.overlay [] = m := by
  simp [overlay]

/-! ### Insertions one by one -/

theorem get?_insertAll (m : Entries α) (added : List (Text × α)) (key : Text) :
    get? (m.insertAll added) key = (get? added.reverse key).or (get? m key) := by
  induction added generalizing m with
  | nil => rfl
  | cons entry added ih =>
    obtain ⟨k, v⟩ := entry
    have hstep : m.insertAll ((k, v) :: added) = (m.insert k v).insertAll added := rfl
    rw [hstep, ih, get?_insert, List.reverse_cons, get?_append, Option.or_assoc, get?_cons,
      get?_nil]
    split <;> rfl

theorem get?_ofList (added : List (Text × α)) (key : Text) :
    get? (ofList added) key = get? added.reverse key := by
  rw [ofList, get?_insertAll, get?_nil, Option.or_none]

theorem get?_ofList_eq_some_iff {added : List (Text × α)} (hkeys : (keys added).Nodup)
    (key : Text) (value : α) : get? (ofList added) key = some value ↔ (key, value) ∈ added := by
  rw [get?_ofList, get?_eq_some_iff (nodup_keys_reverse hkeys), List.mem_reverse]

theorem nodup_keys_insert {m : Entries α} (hm : (keys m).Nodup) (key : Text) (value : α) :
    (keys (m.insert key value)).Nodup := by
  rw [keys_insert]
  split
  · exact hm
  · next h =>
    refine List.nodup_append.mpr ⟨hm, by simp, fun k hk other hother heq => h ?_⟩
    rwa [← List.mem_singleton.mp hother, ← heq]

theorem nodup_keys_insertAll {m : Entries α} (hm : (keys m).Nodup) (added : List (Text × α)) :
    (keys (m.insertAll added)).Nodup := by
  induction added generalizing m with
  | nil => exact hm
  | cons entry added ih => exact ih (nodup_keys_insert hm entry.1 entry.2)

theorem nodup_keys_ofList (added : List (Text × α)) : (keys (ofList added)).Nodup :=
  nodup_keys_insertAll (m := []) List.nodup_nil added

/-- New keys come after the old ones, in the order of their first insertion. -/
theorem keys_insertAll (m : Entries α) (added : List (Text × α)) :
    keys (m.insertAll added) = keys m ++ ((keys added).removeAll (keys m)).eraseDups := by
  induction added generalizing m with
  | nil => simp [insertAll, List.removeAll]
  | cons entry added ih =>
    obtain ⟨k, v⟩ := entry
    have hstep : m.insertAll ((k, v) :: added) = (m.insert k v).insertAll added := rfl
    rw [hstep, ih, keys_insert, keys_cons]
    by_cases hk : k ∈ keys m
    · simp [hk, List.removeAll]
    · -- the first of the new keys; what comes again later is left out
      have hrest : ((keys added).removeAll (keys m)).filter (fun key => !key == k) =
          (keys added).removeAll (keys m ++ [k]) := by
        simp only [List.removeAll, List.filter_filter]
        refine List.filter_congr fun key _ => ?_
        simp [Bool.and_comm, Bool.beq_eq_decide_eq]
      have hfirst :
          (k :: keys added).removeAll (keys m) = k :: (keys added).removeAll (keys m) := by
        simp [List.removeAll, hk]
      rw [if_neg hk, hfirst, List.eraseDups_cons, hrest, List.append_assoc, List.singleton_append]

theorem eraseDups_of_nodup {names : List Text} (h : names.Nodup) : names.eraseDups = names := by
  induction names with
  | nil => rfl
  | cons name names ih =>
    obtain ⟨hname, hnames⟩ := List.nodup_cons.mp h
    have hfilter : names.filter (fun other => !other == name) = names :=
      List.filter_eq_self.mpr fun other hother => by
        have hne : other ≠ name := fun heq => hname (heq ▸ hother)
        simpa using hne
    rw [List.eraseDups_cons, hfilter, ih hnames]

/-- Names that are removed once need not be removed twice. -/
theorem removeAll_append_removeAll (names front back : List Text) :
    names.removeAll (front ++ back.removeAll front) = names.removeAll (front ++ back) := by
  refine List.filter_congr fun name _ => ?_
  by_cases h : name ∈ front <;> simp [h, List.removeAll]

end PageTemplate.Entries
