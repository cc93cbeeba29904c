import PageTemplate.File.Store
import PageTemplate.Proofs.File.Components

/-!
# Writing to a store

Making folders adds folders and touches no file, also if it fails halfway: the store only grows.
Every path that led to a file leads to it afterwards, since names that lead to a place in a store
lead to the same place in a store with more folders. Writing a file sets the content at one place,
which is the place that the path leads to for reading.

## Main definitions

* `PageTemplate.Store.next` — the place that one name leads to from a folder.
* `PageTemplate.Store.Grows` — a store with further folders, none of them in the place of a file.

## Main statements

* `PageTemplate.Store.grows_makeFolders` — making folders.
* `PageTemplate.Store.Grows.content?_eq` — the files of a store that has grown.
* `PageTemplate.Store.locate_of_locateForWriting` — a path leads to one place, for writing and for
  reading.
* `PageTemplate.Store.exists_of_write` — the store after a write.
* `PageTemplate.Store.content?_of_insert`, `PageTemplate.Store.content?_of_insert_of_ne` — the files
  after a write.
-/

namespace PageTemplate

/-! ### Results that are no faults -/

section Except

variable {ε α β : Type}

theorem bind_eq_ok_iff {x : Except ε α} {f : α → Except ε β} {b : β} :
    (x >>= f) = .ok b ↔ ∃ a, x = .ok a ∧ f a = .ok b := by
  cases x with
  | error fault => exact iff_of_false nofun fun ⟨_, h, _⟩ => nomatch h
  | ok a => exact ⟨fun h => ⟨a, rfl, h⟩, fun ⟨_, h, hf⟩ => Except.ok.inj h ▸ hf⟩

/-- After a test that fails in one case, the result is no fault exactly in the other case. -/
theorem guard_eq_ok_iff {c : Prop} [Decidable c] {fault : ε} {f : Unit → Except ε β} {b : β} :
    (if c then throw fault >>= f else f ()) = .ok b ↔ ¬c ∧ f () = .ok b := by
  by_cases hc : c
  · rw [if_pos hc]
    exact iff_of_false nofun fun h => h.1 hc
  · rw [if_neg hc]
    exact (and_iff_right hc).symm

end Except

namespace Store

variable {s s' s'' made : Store} {start here there folder names names' : List Text}
  {name last : Text} {p : FilePath} {octets octets' : Text.Octets}

/-! ### Walking from folder to folder -/

/-- The place that a name leads to from a folder. -/
def next (here : List Text) (name : Text) : List Text :=
  if FilePath.isFiller name then here
  else if name == ".." then here.dropLast
  else here ++ [name]

theorem walk_cons_eq_ok_iff :
    s.walk here (name :: names) = .ok there ↔
      s.isFolder here = true ∧ s.walk (next here name) names = .ok there := by
  rw [walk, next]
  cases s.isFolder here with
  | false => exact iff_of_false nofun fun h => nomatch h.1
  | true =>
    simp only [Bool.not_true, Bool.false_eq_true, if_false, true_and]
    split
    · rfl
    · split <;> rfl

theorem walk_append_eq_ok_iff :
    s.walk here (names ++ names') = .ok there ↔
      ∃ place, s.walk here names = .ok place ∧ s.walk place names' = .ok there := by
  induction names generalizing here with
  | nil => simp [walk]
  | cons name names ih =>
    simp only [List.cons_append, walk_cons_eq_ok_iff, ih, and_assoc, exists_and_left]

/-- One starts from a folder if one arrives at a folder. -/
theorem isFolder_of_walk (h : s.walk here names = .ok there) (hthere : s.isFolder there = true) :
    s.isFolder here = true := by
  cases names with
  | nil =>
    cases h
    exact hthere
  | cons name names => exact (walk_cons_eq_ok_iff.mp h).1

/-- On the way to a folder, empty names make no difference. -/
theorem walk_of_filter {pieces : List Text}
    (h : s.walk here (pieces.filter fun name => !name.isEmpty) = .ok there)
    (hthere : s.isFolder there = true) : s.walk here pieces = .ok there := by
  induction pieces generalizing here with
  | nil => exact h
  | cons name pieces ih =>
    rw [walk_cons_eq_ok_iff]
    cases name with
    | nil => exact ⟨isFolder_of_walk h hthere, ih h⟩
    | cons c name =>
      obtain ⟨hhere, hnext⟩ := walk_cons_eq_ok_iff.mp h
      exact ⟨hhere, ih hnext⟩

/-! ### More folders -/

theorem locate_eq_ok_iff :
    s.locate p = .ok names ↔ (¬p.text.contains '\x00' = true) ∧ (¬p.text.isEmpty = true) ∧
      s.walk (s.start p) (p.text.splitOn '/') = .ok names := by
  unfold locate
  split
  · simp_all
  · split <;> simp_all

section Mono

variable (h : s.folders ⊆ s'.folders)

include h in
theorem isFolder_mono (hfolder : s.isFolder names = true) : s'.isFolder names = true := by
  rw [isFolder, Bool.or_eq_true_iff, List.contains_iff_mem] at hfolder ⊢
  exact hfolder.imp_right fun hmem => h hmem

include h in
/-- Names that lead to a place lead to it as well if there are more folders. -/
theorem walk_mono (hwalk : s.walk here names = .ok there) : s'.walk here names = .ok there := by
  induction names generalizing here with
  | nil => exact hwalk
  | cons name names ih =>
    obtain ⟨hhere, hnext⟩ := walk_cons_eq_ok_iff.mp hwalk
    exact walk_cons_eq_ok_iff.mpr ⟨isFolder_mono h hhere, ih hnext⟩

include h in
theorem locate_mono (hcurrent : s'.current = s.current) (hlocate : s.locate p = .ok names) :
    s'.locate p = .ok names := by
  have hstart : s'.start p = s.start p := by rw [Store.start, Store.start, hcurrent]
  rw [locate_eq_ok_iff] at hlocate ⊢
  exact ⟨hlocate.1, hlocate.2.1, hstart ▸ walk_mono h hlocate.2.2⟩

end Mono

theorem content?_eq_some_iff :
    s.content? p = some octets ↔ ∃ names, s.locate p = .ok names ∧ s.isFolder names = false ∧
      Entries.get? s.files (place names) = some octets := by
  have hok : s.content? p = some octets ↔ s.contentAt p = .ok octets := by
    rw [content?]
    cases s.contentAt p <;> simp [Except.toOption]
  simp only [hok, contentAt, bind_eq_ok_iff, guard_eq_ok_iff, Bool.not_eq_true]
  refine exists_congr fun names => and_congr_right fun _ => and_congr_right fun _ => ?_
  cases Entries.get? s.files (place names) with
  | none => exact iff_of_false nofun nofun
  | some other => simp [pure, Except.pure]

/-! ### Stores that grow -/

/-- The second store has the files of the first one and its folders, and perhaps further folders,
but none where the first store has a file. -/
structure Grows (s s' : Store) : Prop where
  current_eq : s'.current = s.current
  files_eq : s'.files = s.files
  folders_subset : s.folders ⊆ s'.folders
  new_folders : ∀ place ∈ s'.folders, place ∈ s.folders ∨ Entries.get? s.files place = none

namespace Grows

theorem refl (s : Store) : s.Grows s :=
  ⟨rfl, rfl, List.Subset.refl _, fun _ => Or.inl⟩

theorem trans (h : s.Grows s') (h' : s'.Grows s'') : s.Grows s'' where
  current_eq := h'.current_eq.trans h.current_eq
  files_eq := h'.files_eq.trans h.files_eq
  folders_subset := List.Subset.trans h.folders_subset h'.folders_subset
  new_folders place hplace := by
    rcases h'.new_folders place hplace with hold | hnone
    · exact h.new_folders place hold
    · rw [h.files_eq] at hnone
      exact Or.inr hnone

/-- A place with a file does not become a folder. -/
theorem isFolder_eq_false (h : s.Grows s') (hfolder : s.isFolder names = false)
    (hfile : Entries.get? s.files (place names) = some octets) : s'.isFolder names = false := by
  refine eq_false_of_ne_true fun hfolder' => ?_
  rw [Store.isFolder, Bool.or_eq_false_iff] at hfolder
  rw [Store.isFolder, hfolder.1, Bool.false_or, List.contains_iff_mem] at hfolder'
  rcases h.new_folders _ hfolder' with hold | hnone
  · rw [List.contains_iff_mem.mpr hold] at hfolder
    cases hfolder.2
  · cases hfile.symm.trans hnone

/-- A path that led to a file still leads to it. -/
theorem content?_eq (h : s.Grows s') (hcontent : s.content? p = some octets) :
    s'.content? p = some octets := by
  obtain ⟨names, hlocate, hfolder, hfile⟩ := content?_eq_some_iff.mp hcontent
  refine content?_eq_some_iff.mpr ⟨names, locate_mono h.folders_subset h.current_eq hlocate,
    h.isFolder_eq_false hfolder hfile, ?_⟩
  rw [h.files_eq, hfile]

end Grows

/-! ### Making folders -/

theorem run_makeFolders (s : Store) (p : FilePath) :
    (Files.makeFolders p : StateM Store _).run s = ((s.makeFolders p).2, (s.makeFolders p).1) :=
  rfl

theorem folderOf_eq_ok_iff :
    s.folderOf start names last = .ok names' ↔ ∃ folder, s.walk start names = .ok folder ∧
      s.isFolder folder = true ∧ folder ++ [last] = names' := by
  simp only [folderOf, bind_eq_ok_iff, guard_eq_ok_iff, Bool.not_eq_true', Bool.not_eq_false]
  simp [pure, Except.pure]

theorem grows_makeFolder (h : s.makeFolder start names = .ok made) : s.Grows made := by
  cases names with
  | nil => cases h
  | cons last before =>
    rw [makeFolder] at h
    split at h
    · obtain ⟨-, -, hthrow⟩ := bind_eq_ok_iff.mp h
      cases hthrow
    · obtain ⟨names, -, hrest⟩ := bind_eq_ok_iff.mp h
      obtain ⟨hnew, hmade⟩ := guard_eq_ok_iff.mp hrest
      cases hmade
      have hnone : Entries.get? s.files (place names) = none := by
        simpa [isFile] using (not_or.mp (mt Bool.or_eq_true_iff.mpr hnew)).2
      refine ⟨rfl, rfl, List.subset_append_left _ _, fun other hother => ?_⟩
      rcases List.mem_append.mp hother with hold | hother
      · exact Or.inl hold
      · rw [List.mem_singleton.mp hother]
        exact Or.inr hnone

theorem grows_makeAll (s : Store) (start names : List Text) :
    s.Grows (s.makeAll start names).1 := by
  induction names generalizing s with
  | nil => exact .refl s
  | cons last before ih =>
    rw [makeAll]
    split
    · next made hmade => exact grows_makeFolder hmade
    · next hmissing =>
      have haround := ih s
      split
      · next around fault heq =>
        rwa [heq] at haround
      · next around heq =>
        rw [heq] at haround
        split
        · next made hmade => exact haround.trans (grows_makeFolder hmade)
        · split
          · exact haround
          · exact haround
    · split
      · exact .refl s
      · exact .refl s

theorem grows_makeFolders (s : Store) (p : FilePath) : s.Grows (s.makeFolders p).1 := by
  rw [makeFolders]
  split
  · exact .refl s
  · split
    · exact .refl s
    · exact grows_makeAll s _ _

/-! ### Places -/

theorem isName_of_walk (h : s.walk here names = .ok there)
    (hhere : ∀ name ∈ here, FilePath.IsName name) (hnames : ∀ name ∈ names, '/' ∉ name) :
    ∀ name ∈ there, FilePath.IsName name := by
  induction names generalizing here with
  | nil =>
    cases h
    exact hhere
  | cons name names ih =>
    obtain ⟨hname, hrest⟩ := List.forall_mem_cons.mp hnames
    refine ih (walk_cons_eq_ok_iff.mp h).2 ?_ hrest
    unfold next
    split
    · exact hhere
    · next hfiller =>
      split
      · exact fun other hother => hhere other (List.dropLast_subset _ hother)
      · exact List.forall_mem_append.mpr
          ⟨hhere, List.forall_mem_singleton.mpr ⟨hname, eq_false_of_ne_true hfiller⟩⟩

theorem isName_of_mem_start (s : Store) (p : FilePath) :
    ∀ name ∈ s.start p, FilePath.IsName name := by
  unfold Store.start
  split
  · exact nofun
  · exact fun name => FilePath.isName_of_mem_namesIn

/-- The place that a path leads to can be told from its key. -/
theorem namesIn_place (h : s.locate p = .ok names) : FilePath.namesIn (place names) = names := by
  have hnames : ∀ name ∈ names, FilePath.IsName name :=
    isName_of_walk (locate_eq_ok_iff.mp h).2.2 (isName_of_mem_start s p)
      fun _ => Text.not_mem_of_mem_splitOn
  by_cases hne : names = []
  · rw [hne]
    rfl
  · rw [place, FilePath.namesIn_join hne fun name hname => (hnames name hname).1,
      List.filter_eq_self.mpr fun name hname => by simp [(hnames name hname).2]]

theorem eq_of_place_eq {p' : FilePath} (h : s.locate p = .ok names) (h' : s'.locate p' = .ok names')
    (hplace : place names = place names') : names = names' := by
  rw [← namesIn_place h, hplace, namesIn_place h']

/-! ### Writing a file -/

theorem run_write (s : Store) (p : FilePath) (octets : Text.Octets) :
    (Files.write p octets : StateM Store _).run s = ((s.write p octets).2, (s.write p octets).1) :=
  rfl

theorem next_of_mem_names (h : last ∈ p.names) (hdot : last ≠ ".") (hup : last ≠ "..") :
    next folder last = folder ++ [last] := by
  have hfiller : FilePath.isFiller last = false := by
    rw [FilePath.isFiller, beq_eq_false_iff_ne.mpr hdot, Bool.or_false]
    simpa using (List.mem_filter.mp h).2
  rw [next, hfiller, beq_eq_false_iff_ne.mpr hup]
  rfl

/-- The place of a path is one step from the folder that all of its names but the last lead to. -/
theorem walk_splitOn_of_names (hend : p.text.getLast? ≠ some '/') (hp : p.names = names ++ [last])
    (hwalk : s.walk start names = .ok folder) (hfolder : s.isFolder folder = true) :
    s.walk start (p.text.splitOn '/') = .ok (next folder last) := by
  obtain ⟨pieces, hpieces, hnames⟩ := Text.exists_splitOn_eq_append hend hp
  rw [hpieces, walk_append_eq_ok_iff]
  exact ⟨folder, walk_of_filter (hnames ▸ hwalk) hfolder, walk_cons_eq_ok_iff.mpr ⟨hfolder, rfl⟩⟩

/-- A path that can be written leads to the same place for reading. -/
theorem locate_of_locateForWriting (h : s.locateForWriting p = .ok names) :
    s.locate p = .ok names ∧ s.isFolder names = false := by
  unfold locateForWriting at h
  obtain ⟨hnul, hpath⟩ := guard_eq_ok_iff.mp h
  obtain ⟨hrelative, hwritten⟩ := guard_eq_ok_iff.mp hpath
  split at hwritten
  · cases hwritten
  · next last before hnames =>
    obtain ⟨place, hplace, hfound⟩ := bind_eq_ok_iff.mp hwritten
    obtain ⟨hlast, hname⟩ := guard_eq_ok_iff.mp hfound
    obtain ⟨hfile, hresult⟩ := guard_eq_ok_iff.mp hname
    cases hresult
    obtain ⟨folder, hwalk, hfolder, rfl⟩ := folderOf_eq_ok_iff.mp hplace
    simp only [Bool.or_eq_true_iff, not_or, beq_iff_eq] at hlast
    obtain ⟨⟨hend, hdot⟩, hup⟩ := hlast
    have hp : p.names = before.reverse ++ [last] := by
      rw [← List.reverse_cons, ← hnames, List.reverse_reverse]
    have hnext : next folder last = folder ++ [last] :=
      next_of_mem_names (p := p) (by simp [hp]) hdot hup
    exact ⟨locate_eq_ok_iff.mpr ⟨hnul, hrelative,
      hnext ▸ walk_splitOn_of_names hend hp hwalk hfolder⟩, eq_false_of_ne_true hfile⟩

/-- The store after a write: the content at the place of the path is set, and nothing else. -/
theorem exists_of_write (h : (s.write p octets).2 = .ok ()) :
    ∃ names, s.locate p = .ok names ∧ s.isFolder names = false ∧
      (s.write p octets).1 = { s with files := Entries.insert s.files (place names) octets } := by
  rw [write] at h ⊢
  cases hfault : s.fault? .write p with
  | some fault => simp [hfault] at h
  | none =>
    cases hplace : s.locateForWriting p with
    | error fault => simp [hfault, hplace] at h
    | ok names =>
      obtain ⟨hlocate, hfile⟩ := locate_of_locateForWriting hplace
      exact ⟨names, hlocate, hfile, rfl⟩

theorem write_of_error {fault : FileFault} (h : (s.write p octets).2 = .error fault) :
    (s.write p octets).1 = s := by
  rw [write] at h ⊢
  cases hfault : s.fault? .write p with
  | some fault => rfl
  | none =>
    cases hplace : s.locateForWriting p with
    | error fault => rfl
    | ok names => simp [hfault, hplace] at h

/-- What is written is the content. -/
theorem content?_of_insert (hlocate : s.locate p = .ok names) (hfile : s.isFolder names = false) :
    { s with files := Entries.insert s.files (place names) octets }.content? p = some octets := by
  refine content?_eq_some_iff.mpr
    ⟨names, locate_mono (s := s) (List.Subset.refl _) rfl hlocate, hfile, ?_⟩
  rw [Entries.get?_insert, if_pos rfl]

/-- Paths that lead to other places lead to the same content as before. -/
theorem content?_of_insert_of_ne {p' : FilePath} (hlocate : s.locate p = .ok names)
    (hcontent : s.content? p' = some octets') (hne : s.locate p' ≠ .ok names) :
    { s with files := Entries.insert s.files (place names) octets }.content? p' =
      some octets' := by
  obtain ⟨names', hlocate', hfolder, hfile⟩ := content?_eq_some_iff.mp hcontent
  have hplace : place names' ≠ place names := fun heq =>
    hne (by rw [hlocate', eq_of_place_eq hlocate' hlocate heq])
  refine content?_eq_some_iff.mpr
    ⟨names', locate_mono (s := s) (List.Subset.refl _) rfl hlocate', hfolder, ?_⟩
  rw [Entries.get?_insert, if_neg hplace, hfile]

end Store

end PageTemplate
