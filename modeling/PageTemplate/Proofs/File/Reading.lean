import PageTemplate.File.Store

/-!
# Reading files

Files are steady if looking for one of them and reading one change none. Then each path has a file
or none, a file that is there has a content or cannot be read, and a program that does nothing but
look and read leaves all files as they are.

## Main definitions

* `PageTemplate.Files.IsSteady` — looking and reading change no file.
* `PageTemplate.Files.file?`, `PageTemplate.Files.content?` — the file at a path, and its content.
* `PageTemplate.Files.Keeps` — a program that leaves all files as they are.

## Main statements

* `PageTemplate.Files.Keeps.bind`, `PageTemplate.Files.Keeps.bind_except` — programs one after the
  other.
* `PageTemplate.Files.keeps_readText` — reading a text.
-/

namespace PageTemplate.Files

variable {σ α β : Type}

/-- The second program goes on from the files that the first one leaves. -/
theorem run_bind (x : StateM σ α) (f : α → StateM σ β) (s : σ) :
    (x >>= f).run s = (f (x.run s).1).run (x.run s).2 :=
  rfl

theorem run_lift_bind {ε : Type} (x : StateM σ α) (f : α → ExceptT ε (StateM σ) β) (s : σ) :
    (liftM x >>= f).run.run s = (f (x.run s).1).run.run (x.run s).2 :=
  rfl

/-- The program leaves the files as they are. -/
def Keeps (x : StateM σ α) : Prop :=
  ∀ s, (x.run s).2 = s

namespace Keeps

variable {ε : Type}

theorem pure (a : α) : Keeps (Pure.pure a : StateM σ α) :=
  fun _ => rfl

theorem bind {x : StateM σ α} {f : α → StateM σ β} (hx : Keeps x) (hf : ∀ a, Keeps (f a)) :
    Keeps (x >>= f) := by
  intro s
  rw [run_bind, hx s, hf]

/-- The same for programs that can fail: after a failure nothing more is done. -/
theorem bind_except {x : ExceptT ε (StateM σ) α} {f : α → ExceptT ε (StateM σ) β}
    (hx : Keeps x.run) (hf : ∀ a, Keeps (f a).run) : Keeps (x >>= f).run := by
  rw [ExceptT.run_bind]
  refine hx.bind fun result => ?_
  cases result with
  | ok a => exact hf a
  | error fault => exact .pure _

theorem lift {x : StateM σ α} (hx : Keeps x) : Keeps (ExceptT.lift x : ExceptT ε _ α).run :=
  hx.bind fun _ => .pure _

end Keeps

variable [Files (StateM σ)]

/-- Looking for a file and reading one change no file. -/
class IsSteady (σ : Type) [Files (StateM σ)] : Prop where
  keeps_isFile : ∀ path, Keeps (Files.isFile path : StateM σ _)
  keeps_read : ∀ path, Keeps (Files.read path : StateM σ _)

/-- What reading gives at a path, or nothing if no file is found there. -/
def file? (s : σ) (path : FilePath) : Option (Except FileFault Text.Octets) :=
  if ((Files.isFile path : StateM σ _).run s).1 then
    some ((Files.read path : StateM σ _).run s).1
  else none

/-- The content of the file at a path, or nothing if no file is found or it cannot be read. -/
def content? (s : σ) (path : FilePath) : Option Text.Octets :=
  (file? s path).bind Except.toOption

variable [IsSteady σ]

theorem keeps_readText (path : FilePath) : Keeps (readText path : StateM σ _) := by
  refine (IsSteady.keeps_read path).bind fun result => ?_
  cases result with
  | error fault => exact .pure _
  | ok octets =>
    dsimp only
    split
    · exact .pure _
    · exact .pure _

end PageTemplate.Files

namespace PageTemplate.Store

instance : Files.IsSteady Store := ⟨fun _ _ => rfl, fun _ _ => rfl⟩

/-- A file of a store without faults is found and can be read. -/
theorem file?_of_content? {s : Store} {path : FilePath} {octets : Text.Octets}
    (hlook : s.fault? .look path = none) (hread : s.fault? .read path = none)
    (h : s.content? path = some octets) : Files.file? s path = some (.ok octets) := by
  have hfinds : s.findsFile path = true := by simp [findsFile, hlook, h]
  have hok : s.read? path = .ok octets := by
    rw [content?] at h
    rw [read?, hread]
    cases hcontent : s.contentAt path with
    | error fault => simp [hcontent, Except.toOption] at h
    | ok other =>
      rw [hcontent] at h
      exact congrArg Except.ok (Option.some.inj h)
  exact (if_pos hfinds).trans (congrArg some hok)

theorem filesContent?_of_content? {s : Store} {path : FilePath} {octets : Text.Octets}
    (hlook : s.fault? .look path = none) (hread : s.fault? .read path = none)
    (h : s.content? path = some octets) : Files.content? s path = some octets := by
  rw [Files.content?, file?_of_content? hlook hread h]
  rfl

end PageTemplate.Store
