import PageTemplate.Loader
import PageTemplate.Proofs.File.Reading

/-!
# Templates found by name

What a loader gives is a function of the files and their contents, and finding templates leaves all
files as they are. A template in the tree of its parent is put together from what the name of the
parent leads to, if it leads to a template that can be read.

## Main definitions

* `PageTemplate.Loader.fetched` — the octets of a template or what is wrong, given the files.
* `PageTemplate.Loader.found?` — the template of a name, given the contents of files.
* `PageTemplate.Loader.notFound` — the error where there is none.
* `PageTemplate.Template.within` — a template in the tree of the parent that was found.

## Main statements

* `PageTemplate.Loader.inherit_of_parent?` — inheritance depends on what the name of the parent
  leads to.
* `PageTemplate.Loader.run_load`, `PageTemplate.Loader.run_inherit` — what the loader gives.
* `PageTemplate.Loader.fetched_eq_ok_iff`, `PageTemplate.Loader.fetched_eq_error_iff` — when there
  is a template, and what is wrong when there is none.
-/

namespace PageTemplate

/-- The template in the tree of its parent, or as it is if the parent was not found. -/
def Template.within (t : Template) (found : Option Template) : Template :=
  found.elim t fun parent => parent.extend t

namespace Loader

variable (l : Loader)

section Inherit

variable {m : Type → Type} [Monad m] [Files m] {t : Template}

theorem inherit_of_parent?_none (h : t.parent? = none) : (l.inherit t : m Template) = pure t := by
  rw [inherit, h]

theorem inherit_of_parent? [LawfulMonad m] {name : Text} {location : Location}
    (h : t.parent? = some (name, location)) :
    (l.inherit t : m Template) = t.within <$> l.load? name := by
  simp only [inherit, h, map_eq_pure_bind]
  refine congrArg _ (funext fun found => ?_)
  cases found <;> rfl

end Inherit

/-! ### What is found -/

/-- The template of a name, if the files with these contents have one. -/
def found? (content? : FilePath → Option Text.Octets) (name : Text) : Option Template :=
  ((l.resolve? name).bind content?).map fun octets => Template.parse (Text.ofUtf8Lossy octets)

/-- The parent that a template names, if it can be found. -/
def foundParent? (content? : FilePath → Option Text.Octets) (t : Template) : Option Template :=
  t.parent?.bind fun parent => l.found? content? parent.1

/-- The error that there is no template of a name. -/
def notFound (name : Text) : Fault :=
  .notFound name ((l.resolve? name).getD (l.root.join name))

/-- The octets of the template of a name or what is wrong with it, given what reading gives at the
paths of files. -/
def fetched (file? : FilePath → Option (Except FileFault Text.Octets)) (name : Text) :
    Except Fault Text.Octets :=
  match (l.resolve? name).bind file? with
  | some (.ok octets) => .ok octets
  | some (.error cause) => .error (.unreadable cause)
  | none => .error (l.notFound name)

section Found

variable {l} {content? : FilePath → Option Text.Octets} {name : Text}

theorem found?_of_resolve? {path : FilePath} {octets : Text.Octets}
    (hpath : l.resolve? name = some path) (hcontent : content? path = some octets) :
    l.found? content? name = some (Template.parse (Text.ofUtf8Lossy octets)) := by
  rw [found?, hpath, Option.bind_some, hcontent, Option.map_some]

end Found

variable {σ : Type} [Files (StateM σ)]

/-- A template is found where its octets can be fetched. -/
theorem toOption_fetched (name : Text) (s : σ) :
    (l.fetched (Files.file? s) name).toOption.map (fun octets =>
      Template.parse (Text.ofUtf8Lossy octets)) = l.found? (Files.content? s) name := by
  rw [fetched, found?]
  cases l.resolve? name with
  | none => rfl
  | some path =>
    simp only [Option.bind_some, Files.content?]
    rcases Files.file? s path with _ | _ | _ <;> rfl

variable {l} in
theorem fetched_eq_ok_iff {name : Text} {s : σ} {octets : Text.Octets} :
    l.fetched (Files.file? s) name = .ok octets ↔
      ∃ path, l.resolve? name = some path ∧ Files.content? s path = some octets := by
  rw [fetched]
  cases l.resolve? name with
  | none => simp
  | some path =>
    simp only [Option.bind_some, Files.content?, Option.some.injEq, exists_eq_left']
    rcases Files.file? s path with _ | fault | other <;> simp [Except.toOption]

variable {l} in
/-- What can be wrong with a template: there is no file at its path, or the file cannot be read. -/
theorem fetched_eq_error_iff {name : Text} {s : σ} {fault : Fault} :
    l.fetched (Files.file? s) name = .error fault ↔
      (fault = l.notFound name ∧
        ∀ path, l.resolve? name = some path → Files.file? s path = none) ∨
      ∃ path cause, l.resolve? name = some path ∧ Files.file? s path = some (.error cause) ∧
        fault = .unreadable cause := by
  rw [fetched]
  cases l.resolve? name with
  | none => simp [eq_comm]
  | some path =>
    simp only [Option.bind_some, Option.some.injEq, forall_eq', exists_and_left, exists_eq_left']
    generalize Files.file? s path = file
    rcases file with _ | cause | octets <;> simp [eq_comm]

variable [Files.IsSteady σ]

theorem run_source (name : Text) (s : σ) :
    (l.source name : StateM σ _).run s =
      ((l.fetched (Files.file? s) name).map Text.ofUtf8Lossy, s) := by
  rw [source, fetched, notFound]
  cases l.resolve? name with
  | none => rfl
  | some path =>
    simp only [Files.run_bind, Files.IsSteady.keeps_isFile path s, Option.bind_some,
      Option.getD_some, Files.file?]
    split
    · rw [Files.run_bind, Files.IsSteady.keeps_read path s]
      cases ((Files.read path : StateM σ _).run s).1 <;> rfl
    · rfl

theorem run_load (name : Text) (s : σ) :
    (l.load name : StateM σ _).run s =
      ((l.fetched (Files.file? s) name).map fun octets =>
        Template.parse (Text.ofUtf8Lossy octets), s) := by
  rw [load, Files.run_bind, run_source]
  cases l.fetched (Files.file? s) name <;> rfl

theorem run_load? (name : Text) (s : σ) :
    (l.load? name : StateM σ _).run s = (l.found? (Files.content? s) name, s) := by
  rw [load?, Files.run_bind, run_load, ← toOption_fetched]
  cases l.fetched (Files.file? s) name <;> rfl

theorem run_inherit (t : Template) (s : σ) :
    (l.inherit t : StateM σ _).run s =
      (t.within (l.foundParent? (Files.content? s) t), s) := by
  cases hparent : t.parent? with
  | none =>
    rw [inherit_of_parent?_none l hparent, foundParent?, hparent]
    rfl
  | some parent =>
    obtain ⟨name, location⟩ := parent
    have hfound : l.foundParent? (Files.content? s) t = l.found? (Files.content? s) name := by
      rw [foundParent?, hparent, Option.bind_some]
    rw [inherit_of_parent? l hparent, StateT.run_map, run_load?, hfound]
    rfl

end Loader

end PageTemplate
