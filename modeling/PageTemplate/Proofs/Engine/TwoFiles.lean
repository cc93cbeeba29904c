import PageTemplate.Engine
import PageTemplate.Proofs.Loader.Found

/-!
# Pages and the files they are made of

The page of a named template is a function of the contents of two files at most: the file of the
name, and the file of the parent that this template names first. The parent of the parent is never
looked for, so templates may name themselves or each other. Only a name without a file, or with a
file that cannot be read, is an error.

## Main definitions

* `PageTemplate.Engine.pageOf` — the page of a template, given the contents of files.

## Main statements

* `PageTemplate.Engine.run_render` — what rendering gives and leaves.
* `PageTemplate.Engine.pageOf_congr` — the contents that a page depends on.
* `PageTemplate.Engine.render_two_files` — rendering, its errors, and the files that count.
-/

namespace PageTemplate

/-! ### What is found depends on one path -/

namespace Loader

variable {l : Loader}

theorem fetched_congr {file? file?' : FilePath → Option (Except FileFault Text.Octets)}
    {name : Text} (h : ∀ path, l.resolve? name = some path → file? path = file?' path) :
    l.fetched file? name = l.fetched file?' name := by
  rw [fetched, fetched]
  cases hpath : l.resolve? name with
  | none => rfl
  | some path => rw [Option.bind_some, Option.bind_some, h path hpath]

variable {content? content?' : FilePath → Option Text.Octets}

theorem found?_congr {name : Text}
    (h : ∀ path, l.resolve? name = some path → content? path = content?' path) :
    l.found? content? name = l.found? content?' name := by
  rw [found?, found?]
  cases hpath : l.resolve? name with
  | none => rfl
  | some path => rw [Option.bind_some, Option.bind_some, h path hpath]

theorem foundParent?_congr {t : Template}
    (h : ∀ name location path, t.parent? = some (name, location) →
      l.resolve? name = some path → content? path = content?' path) :
    l.foundParent? content? t = l.foundParent? content?' t := by
  rw [foundParent?, foundParent?]
  cases hparent : t.parent? with
  | none => rfl
  | some parent => exact found?_congr fun path => h parent.1 parent.2 path hparent

end Loader

namespace Engine

variable (e : Engine) (name : Text) (data : Value)

/-- The page of a template with these octets, if the other files have these contents. -/
def pageOf (content? : FilePath → Option Text.Octets) (octets : Text.Octets) : Text :=
  let t := Template.parse (Text.ofUtf8Lossy octets)
  (t.within (e.loader.foundParent? content? t)).render e.globals data

variable {e} in
theorem pageOf_congr {content? content?' : FilePath → Option Text.Octets} {octets : Text.Octets}
    (h : ∀ parent location path,
      (Template.parse (Text.ofUtf8Lossy octets)).parent? = some (parent, location) →
        e.loader.resolve? parent = some path → content? path = content?' path) :
    e.pageOf data content? octets = e.pageOf data content?' octets := by
  rw [pageOf, pageOf, Loader.foundParent?_congr h]

variable {σ : Type} [Files (StateM σ)] [Files.IsSteady σ]

theorem run_renderTemplate (t : Template) (s : σ) :
    (e.renderTemplate t data : StateM σ _).run s =
      ((t.within (e.loader.foundParent? (Files.content? s) t)).render e.globals data, s) := by
  rw [renderTemplate, Files.run_bind, Loader.run_inherit]
  rfl

/-- What rendering gives, and that it leaves all files as they are. -/
theorem run_render (s : σ) :
    (e.render name data : StateM σ _).run s =
      ((e.loader.fetched (Files.file? s) name).map (e.pageOf data (Files.content? s)), s) := by
  rw [render, Files.run_bind, Loader.run_load]
  cases e.loader.fetched (Files.file? s) name with
  | error fault => rfl
  | ok octets =>
    dsimp only [Except.map]
    rw [Files.run_bind, run_renderTemplate]
    rfl

theorem keeps_render : Files.Keeps (e.render name data : StateM σ _) := by
  intro s
  rw [run_render]

/-- **A page is made of two files at most.** Rendering gives the same for any files that agree at
the path of the name and, if the template there names a parent, at the path of that parent. It
changes no file. There are two errors. One is that there is no template of the name, and it comes
exactly if the name has no path or no file is found at its path; the other is that the file found
there cannot be read. Otherwise there is a page, that of the template in the tree of its parent, or
of the template alone if it names no parent or its parent cannot be found or read. -/
theorem render_two_files :
    let result (s : σ) := ((e.render name data : StateM σ _).run s).1
    (∀ s s' : σ,
      (∀ path, e.loader.resolve? name = some path → Files.file? s path = Files.file? s' path) →
      (∀ path octets parent location parentPath, e.loader.resolve? name = some path →
        Files.content? s path = some octets →
        (Template.parse (Text.ofUtf8Lossy octets)).parent? = some (parent, location) →
        e.loader.resolve? parent = some parentPath →
          Files.content? s parentPath = Files.content? s' parentPath) →
      result s = result s') ∧
    ∀ s : σ,
      ((e.render name data : StateM σ _).run s).2 = s ∧
      (∀ fault, result s = .error fault ↔
        (fault = e.loader.notFound name ∧
          ∀ path, e.loader.resolve? name = some path → Files.file? s path = none) ∨
        ∃ path cause, e.loader.resolve? name = some path ∧
          Files.file? s path = some (.error cause) ∧ fault = .unreadable cause) ∧
      ∀ path octets, e.loader.resolve? name = some path → Files.content? s path = some octets →
        let t := Template.parse (Text.ofUtf8Lossy octets)
        result s =
          .ok ((t.within (e.loader.foundParent? (Files.content? s) t)).render e.globals data) := by
  intro result
  have hresult : ∀ s, result s =
      (e.loader.fetched (Files.file? s) name).map (e.pageOf data (Files.content? s)) :=
    fun s => congrArg Prod.fst (e.run_render name data s)
  refine ⟨fun s s' hname hparent => ?_, fun s => ⟨e.keeps_render name data s, fun fault => ?_, ?_⟩⟩
  · rw [hresult, hresult, ← Loader.fetched_congr hname]
    cases hfetched : e.loader.fetched (Files.file? s) name with
    | error fault => rfl
    | ok octets =>
      obtain ⟨path, hpath, hcontent⟩ := Loader.fetched_eq_ok_iff.mp hfetched
      exact congrArg Except.ok (pageOf_congr data fun parent location parentPath =>
        hparent path octets parent location parentPath hpath hcontent)
  · rw [hresult, ← Loader.fetched_eq_error_iff]
    cases e.loader.fetched (Files.file? s) name <;> simp [Except.map]
  · intro path octets hpath hcontent t
    rw [hresult, Loader.fetched_eq_ok_iff.mpr ⟨path, hpath, hcontent⟩]
    rfl

/-- Two templates that name each other as parents, with a third file, and with files that cannot be
read. -/
theorem render_two_files_cycle :
    let e := ofLoader Settings.defaultLoader
    let data : Value := .object [("n", .int 1)]
    let a : Text :=
      "\x7b% extends 'b' %\x7d\x7b% block x %\x7d\x7b\x7b n \x7d\x7d\x7b% endblock %\x7d"
    let b : Text := "\x7b% extends 'a' %\x7d<\x7b% block x %\x7d\x7b% endblock %\x7d>"
    let s : Store := {
      folders := ["templates"]
      files := [("templates/a.twig", Text.toUtf8 a), ("templates/b.twig", Text.toUtf8 b)] }
    let s' : Store := (s.write ⟨"templates/c.twig"⟩ []).1
    let denied : Store := { s with fault? := fun op _ => if op = .read then some .denied else none }
    (e.render "a" data : StateM Store _).run s = (.ok "<1>", s) ∧
      ((e.render "a" data : StateM Store _).run s').1 = .ok "<1>" ∧
      ((e.render "a" data : StateM Store _).run denied).1 = .error (.unreadable .denied) ∧
      ((e.render "../a" data : StateM Store _).run s).1 =
        .error (.notFound "../a" ⟨"templates/../a"⟩) := by
  intro e data a b s s' denied
  have hpath : e.loader.resolve? "a" = some ⟨"templates/a.twig"⟩ := by decide +kernel
  have hpath' : e.loader.resolve? "b" = some ⟨"templates/b.twig"⟩ := by decide +kernel
  have hnone : e.loader.resolve? "../a" = none := by decide +kernel
  have hold : s.content? ⟨"templates/a.twig"⟩ = some (Text.toUtf8 a) := by decide +kernel
  have hnew : s'.content? ⟨"templates/a.twig"⟩ = some (Text.toUtf8 a) := by decide +kernel
  have hdenied : Files.file? denied ⟨"templates/a.twig"⟩ = some (.error .denied) :=
    if_pos (by decide +kernel)
  have hcontent : Files.content? s ⟨"templates/a.twig"⟩ = some (Text.toUtf8 a) :=
    Store.filesContent?_of_content? rfl rfl hold
  have hparent : (Template.parse (Text.ofUtf8Lossy (Text.toUtf8 a))).parent? =
      some (("b" : Text), Location.start) := by decide +kernel
  obtain ⟨hagree, hstate⟩ := render_two_files (σ := Store) e "a" data
  obtain ⟨hkeeps, -, hpage⟩ := hstate s
  have hok : ((e.render "a" data : StateM Store _).run s).1 = .ok "<1>" :=
    (hpage _ _ hpath hcontent).trans (congrArg _ (by decide +kernel))
  refine ⟨Prod.ext hok hkeeps, ?_, ?_, ?_⟩
  · refine (hagree s s' ?_ ?_).symm.trans hok
    · intro path h
      cases hpath.symm.trans h
      rw [Store.file?_of_content? rfl rfl hold, Store.file?_of_content? rfl rfl hnew]
    · intro path octets parent location parentPath h hoctets hinherit hresolve
      cases hpath.symm.trans h
      cases hcontent.symm.trans hoctets
      cases hparent.symm.trans hinherit
      cases hpath'.symm.trans hresolve
      decide +kernel
  · exact ((hstate denied).2.1 _).mpr (.inr ⟨_, _, hpath, hdenied, rfl⟩)
  · refine (((render_two_files (σ := Store) e "../a" data).2 s).2.1 _).mpr
      (.inl ⟨?_, fun path h => ?_⟩)
    · rw [Loader.notFound, hnone]
      decide +kernel
    · cases hnone.symm.trans h

end Engine

end PageTemplate
