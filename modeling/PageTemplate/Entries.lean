import PageTemplate.Text.Basic

/-!
# Entries in order of insertion

A mapping from names to values that keeps its keys in the order in which they were first inserted.
Inserting a value for a key that is already there replaces the value and keeps its place.

## Main definitions

* `PageTemplate.Entries` — keys with their values, in order.
* `PageTemplate.Entries.get?`, `PageTemplate.Entries.insert`, `PageTemplate.Entries.keys`.
* `PageTemplate.Entries.ofList`, `PageTemplate.Entries.insertAll` — repeated insertion.

## Main statements

* `PageTemplate.Entries.get?_insert` — what is found after an insertion.
* `PageTemplate.Entries.keys_insert` — an insertion adds a new key at the end and moves none.
-/

namespace PageTemplate

/-- Keys with their values, in order of first insertion. -/
abbrev Entries (α : Type) := List (Text × α)

namespace Entries

variable {α : Type}

/-- The value of a key. -/
def get? : Entries α → Text → Option α
  | [], _ => none
  | (k, v) :: m, key => if key = k then some v else get? m key

/-- The keys in order. -/
def keys (m : Entries α) : List Text :=
  m.map Prod.fst

/-- The entries with `value` for `key`, in its old place or else at the end. -/
def insert : Entries α → Text → α → Entries α
  | [], key, value => [(key, value)]
  | (k, v) :: m, key, value =>
    if k = key then (k, value) :: m else (k, v) :: insert m key value

/-- The entries after the insertions of a list, one by one. -/
def insertAll (m : Entries α) (added : List (Text × α)) : Entries α :=
  added.foldl (fun m (key, value) => m.insert key value) m

/-- The entries inserted one by one. -/
def ofList (added : List (Text × α)) : Entries α :=
  insertAll [] added

@[simp] theorem get?_nil (key : Text) : get? ([] : Entries α) key = none := rfl

theorem get?_cons (k : Text) (v : α) (m : Entries α) (key : Text) :
    get? ((k, v) :: m) key = if key = k then some v else get? m key := rfl

theorem get?_insert (m : Entries α) (key : Text) (value : α) (other : Text) :
    get? (insert m key value) other = if other = key then some value else get? m other := by
  induction m with
  | nil => simp [insert, get?_cons]
  | cons entry m ih =>
    obtain ⟨k, v⟩ := entry
    by_cases hk : k = key
    · subst hk
      by_cases ho : other = k <;> simp [insert, get?_cons, ho]
    · by_cases ho : other = k
      · subst ho; simp [insert, get?_cons, hk]
      · simp [insert, get?_cons, hk, ho, ih]

theorem keys_insert (m : Entries α) (key : Text) (value : α) :
    keys (insert m key value) = if key ∈ keys m then keys m else keys m ++ [key] := by
  induction m with
  | nil => simp [insert, keys]
  | cons entry m ih =>
    obtain ⟨k, v⟩ := entry
    by_cases hk : k = key
    · subst hk; simp [insert, keys]
    · have hk' : key ≠ k := fun h => hk h.symm
      simp only [insert, hk, if_false]
      simp only [keys, List.map_cons, List.mem_cons, hk', false_or] at ih ⊢
      rw [ih]
      split <;> simp [*]

end Entries

end PageTemplate
