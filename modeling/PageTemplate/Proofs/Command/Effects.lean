import PageTemplate.Command.Run
import PageTemplate.Proofs.Command.Output
import PageTemplate.Proofs.Engine.TwoFiles
import PageTemplate.Proofs.File.Writing

/-!
# What commands do to files

Everything that a command needs is read, and everything that can be wrong with it is found out,
before anything is written. So a command that fails leaves every file as it was; folders may have
been made for its output. A page that is written to a file is the page that the same command line
prints without its output, and it is written to one place only.

## Main definitions

* `PageTemplate.Command.deliver` — a page printed or written.
* `PageTemplate.Command.IsWritten` — a store after a page was to be written.
* `PageTemplate.Command.made` — the page that options ask for.
* `PageTemplate.Command.Ends` — how the command `render` may end.

## Main statements

* `PageTemplate.Command.runRender_eq` — a page is made before it is printed or written.
* `PageTemplate.Command.keeps_runRender` — making a page leaves all files as they are.
* `PageTemplate.Command.isWritten_writePage` — what writing a page does to a store.
* `PageTemplate.Command.ends_run` — rendering ends in one of these ways.
* `PageTemplate.Command.grows_of_code_ne`, `PageTemplate.Command.files_of_ends` — the files after a
  failure and after a page is written.
* `PageTemplate.Command.runArgs_files` — what becomes of the files.
-/

namespace PageTemplate.Command

/-! ### Pages are made before they are written -/

section Deliver

variable {m : Type → Type} [Monad m] [Files m]

/-- A page printed, or written to a file if one is given. -/
def deliver (output : Option FilePath) (page : Text) : ExceptT Report m Text :=
  match output with
  | none => return page
  | some path => do
    writePage path page
    return []

variable [LawfulMonad m]

theorem runRender_eq (year : Int) (o : RenderOptions) :
    (runRender year o : ExceptT Report m Text) =
      runRender year { o with output := none } >>= deliver o.output := by
  simp only [runRender, bind_assoc]
  refine congrArg _ (funext fun settings => congrArg _ (funext fun engine =>
    congrArg _ (funext fun data => congrArg _ (funext fun result => ?_))))
  cases result with
  | error fault => simp
  | ok page =>
    rw [pure_bind]
    rfl

end Deliver

/-! ### Making a page only reads -/

section Keeps

variable {σ : Type} [Files (StateM σ)] [Files.IsSteady σ]

open Files

theorem keeps_load (path : FilePath) : Keeps (Settings.load path : StateM σ _) := by
  refine (keeps_readText path).bind fun result => ?_
  cases result with
  | error fault => exact .pure _
  | ok source => exact .pure _

theorem keeps_settingsFor (o : RenderOptions) :
    Keeps (settingsFor o : ExceptT Report (StateM σ) Settings).run := by
  unfold settingsFor
  dsimp only
  split
  · refine Keeps.bind_except (.pure _) fun settings => ?_
    split <;> exact .pure _
  · refine Keeps.bind_except (.lift (keeps_load _)) fun result => ?_
    split
    · refine Keeps.bind_except (.pure _) fun settings => ?_
      split <;> exact .pure _
    · exact Keeps.bind_except (.pure _) fun settings => by split <;> exact .pure _

theorem keeps_dataFor (path : Option FilePath) :
    Keeps (dataFor path : ExceptT Report (StateM σ) Value).run := by
  cases path with
  | none => exact .pure _
  | some path =>
    refine Keeps.bind_except (.lift (keeps_readText path)) fun result => ?_
    cases result with
    | error fault => exact .pure _
    | ok source =>
      dsimp only
      split <;> exact .pure _

/-- Making a page leaves all files as they are. -/
theorem keeps_runRender (year : Int) (o : RenderOptions) (h : o.output = none) :
    Keeps (runRender year o : ExceptT Report (StateM σ) Text).run := by
  refine Keeps.bind_except (keeps_settingsFor o) fun settings => ?_
  refine Keeps.bind_except (.pure _) fun engine => ?_
  refine Keeps.bind_except (keeps_dataFor o.data) fun data => ?_
  refine Keeps.bind_except (.lift (engine.keeps_render o.template data)) fun result => ?_
  cases result with
  | error fault => exact .pure _
  | ok page =>
    rw [h]
    exact .pure _

theorem keeps_runTokens (file : FilePath) :
    Keeps (runTokens file : ExceptT Report (StateM σ) Text).run := by
  refine Keeps.bind_except (.lift (keeps_readText file)) fun result => ?_
  cases result with
  | error fault => exact .pure _
  | ok source => exact .pure _

end Keeps

/-! ### Writing a page -/

section Write

variable {s around : Store} {path : FilePath} {page : Text}

/-- What may have become of a store in which octets were to be written to a path: after a failure it
has grown, and otherwise it has grown and then got the octets at the place of the path. -/
inductive IsWritten (s : Store) (path : FilePath) (octets : Text.Octets) :
    Except Report Unit × Store → Prop
  | failed {report : Report} {after : Store} (grows : s.Grows after) :
    IsWritten s path octets (.error report, after)
  | done {around : Store} {names : List Text} (grows : s.Grows around)
    (locate_eq : around.locate path = .ok names) (isFile : around.isFolder names = false) :
    IsWritten s path octets (.ok (),
      { around with files := Entries.insert around.files (Store.place names) octets })

/-- Writes a page to a file in a folder that is there. -/
def writeFile (path : FilePath) (page : Text) : ExceptT Report (StateM Store) Unit := do
  match ← (Files.write path (Text.toUtf8 page) : StateM Store _) with
  | .ok () => return ()
  | .error fault => throw (reportAt "Failed to write" path [fault.message])

theorem isWritten_writeFile (h : s.Grows around) :
    IsWritten s path (Text.toUtf8 page) ((writeFile path page).run.run around) := by
  rw [writeFile, Files.run_lift_bind, Store.run_write]
  cases hwrite : (around.write path (Text.toUtf8 page)).2 with
  | error fault =>
    rw [Store.write_of_error hwrite]
    exact .failed h
  | ok _ =>
    obtain ⟨names, hlocate, hfile, hafter⟩ := Store.exists_of_write hwrite
    rw [hafter]
    exact .done h hlocate hfile

theorem isWritten_writePage (s : Store) (path : FilePath) (page : Text) :
    IsWritten s path (Text.toUtf8 page)
      ((writePage path page : ExceptT Report (StateM Store) Unit).run.run s) := by
  unfold writePage
  dsimp only
  split
  · next folder hfolder =>
    split
    · have hgrows := Store.grows_makeFolders s folder
      rw [Files.run_lift_bind, Store.run_makeFolders]
      cases (s.makeFolders folder).2 with
      | error fault => exact .failed hgrows
      | ok _ => exact isWritten_writeFile hgrows
    · exact isWritten_writeFile (.refl s)
  · exact isWritten_writeFile (.refl s)

end Write

/-! ### Commands and command lines -/

section Run

variable {year : Int} {o : RenderOptions} {s : Store} {page : Text}

/-- The page that options ask for, or what is wrong with them, given the files of a store. -/
def made (year : Int) (o : RenderOptions) (s : Store) : Except Report Text :=
  ((runRender year { o with output := none } : ExceptT Report (StateM Store) Text).run.run s).1

/-- How the command `render` may end. -/
inductive Ends (year : Int) (o : RenderOptions) (s : Store) : Outcome × Store → Prop
  | failed {report : Report} {after : Store} (grows : s.Grows after) :
    Ends year o s (.failure report, after)
  | printed {page : Text} (made_eq : made year o s = .ok page) (output_eq : o.output = none) :
    Ends year o s (.success page, s)
  | written {page : Text} {path : FilePath} {around : Store} {names : List Text}
    (made_eq : made year o s = .ok page) (output_eq : o.output = some path)
    (grows : s.Grows around) (locate_eq : around.locate path = .ok names)
    (isFile : around.isFolder names = false) :
    Ends year o s (.success [], { around with
      files := Entries.insert around.files (Store.place names) (Text.toUtf8 page) })

theorem run_runRender (year : Int) (o : RenderOptions) (s : Store) :
    (runRender year o : ExceptT Report (StateM Store) Text).run.run s =
      match made year o s with
      | .ok page => (deliver o.output page : ExceptT Report (StateM Store) Text).run.run s
      | .error report => (.error report, s) := by
  have hkeeps := keeps_runRender (σ := Store) year { o with output := none } rfl s
  rw [runRender_eq, ExceptT.run_bind, Files.run_bind, hkeeps, made]
  cases ((runRender year { o with output := none } : ExceptT Report (StateM Store) Text).run.run
    s).1 <;> rfl

/-- The outcome of a command with this result. -/
def Outcome.ofResult : Except Report Text → Outcome
  | .ok output => .success output
  | .error report => .failure report

theorem Outcome.output_ofResult {result : Except Report Text}
    (h : (ofResult result).code ≠ 0) : (ofResult result).output = [] := by
  cases result with
  | ok output => exact absurd rfl h
  | error report => rfl

/-- What a command prints, or what goes wrong with it. -/
def result (year : Int) : Command → ExceptT Report (StateM Store) Text
  | render o => runRender year o
  | tokens file => runTokens file
  | help topic => pure topic.text
  | version => pure versionText

theorem run_eq (year : Int) (command : Command) (s : Store) :
    (run year command : StateM Store Outcome).run s =
      Prod.map Outcome.ofResult id ((result year command).run.run s) := by
  have hrun : (run year command : StateM Store Outcome).run s =
      (((result year command).run >>= fun
        | .ok output => pure (.success output)
        | .error report => pure (.failure report) : StateM Store Outcome)).run s := by
    cases command <;> rfl
  rw [hrun, Files.run_bind]
  rcases (result year command).run.run s with ⟨_ | _, _⟩ <;> rfl

theorem run_deliver (path : FilePath) (page : Text) (s : Store) :
    (deliver (some path) page : ExceptT Report (StateM Store) Text).run.run s =
      Prod.map (Except.map fun _ => []) id
        ((writePage path page : ExceptT Report (StateM Store) Unit).run.run s) := by
  unfold deliver
  rw [ExceptT.run_bind, Files.run_bind]
  rcases (writePage path page : ExceptT Report (StateM Store) Unit).run.run s with ⟨_ | _, _⟩ <;>
    rfl

theorem ends_run (year : Int) (o : RenderOptions) (s : Store) :
    Ends year o s ((run year (.render o) : StateM Store Outcome).run s) := by
  rw [run_eq, result, run_runRender]
  cases hmade : made year o s with
  | error report => exact .failed (.refl s)
  | ok page =>
    cases houtput : o.output with
    | none => exact .printed hmade houtput
    | some path =>
      dsimp only
      rw [run_deliver]
      have hwritten := isWritten_writePage s path page
      generalize (writePage path page : ExceptT Report (StateM Store) Unit).run.run s = written
        at hwritten
      cases hwritten with
      | failed grows => exact .failed grows
      | done grows hlocate hfile => exact .written hmade houtput grows hlocate hfile

theorem run_of_made (h : made year o s = .ok page) :
    (run year (.render { o with output := none }) : StateM Store Outcome).run s =
      (.success page, s) := by
  have hresult : (runRender year { o with output := none } :
      ExceptT Report (StateM Store) Text).run.run s = (.ok page, s) :=
    Prod.ext h (keeps_runRender year _ rfl s)
  rw [run_eq, result, hresult]
  rfl

theorem runArgs_of_ofArgs {args : List Text} {command : Command} (h : ofArgs args = .ok command) :
    (runArgs year args : StateM Store Outcome) = run year command := by
  rw [runArgs, h]

/-- A command that fails prints no output, and the store has only grown. -/
theorem grows_of_code_ne (command : Command)
    (h : ((run year command : StateM Store Outcome).run s).1.code ≠ 0) :
    ((run year command : StateM Store Outcome).run s).1.output = [] ∧
      s.Grows ((run year command : StateM Store Outcome).run s).2 := by
  cases command with
  | tokens file =>
    have hkeeps : ((result year (.tokens file)).run.run s).2 = s :=
      keeps_runTokens (σ := Store) file s
    rw [run_eq] at h ⊢
    refine ⟨Outcome.output_ofResult h, ?_⟩
    rw [Prod.map_snd, hkeeps]
    exact .refl s
  | render o =>
    have hends := ends_run year o s
    generalize (run year (.render o) : StateM Store Outcome).run s = x at hends h ⊢
    cases hends with
    | failed grows => exact ⟨rfl, grows⟩
    | printed => exact absurd rfl h
    | written => exact absurd rfl h
  | help topic => exact absurd rfl h
  | version => exact absurd rfl h

/-- A page that is written to a path prints nothing. It is the content there, and only the place of
the path is changed. -/
theorem files_of_ends {path : FilePath} {outcome : Outcome} {after : Store}
    (hends : Ends year o s (outcome, after)) (houtput : o.output = some path)
    (hcode : outcome.code = 0) :
    outcome.output = [] ∧ ∃ page names, made year o s = .ok page ∧
      after.content? path = some (Text.toUtf8 page) ∧ after.locate path = .ok names ∧
      after.files = Entries.insert s.files (Store.place names) (Text.toUtf8 page) ∧
      ∀ other octets, s.content? other = some octets → after.locate other ≠ .ok names →
        after.content? other = some octets := by
  cases hends with
  | failed grows => cases hcode
  | printed made_eq output_eq => cases houtput.symm.trans output_eq
  | @written page path' around names made_eq output_eq grows hlocate hfile =>
    cases houtput.symm.trans output_eq
    have hafter : ∀ {other place}, around.locate other = .ok place →
        Store.locate { around with
          files := Entries.insert around.files (Store.place names) (Text.toUtf8 page) } other =
            .ok place :=
      Store.locate_mono (List.Subset.refl _) rfl
    refine ⟨rfl, page, names, made_eq, Store.content?_of_insert hlocate hfile, hafter hlocate,
      congrArg (Entries.insert · _ _) grows.files_eq, ?_⟩
    intro other octets hcontent hne
    exact Store.content?_of_insert_of_ne hlocate (grows.content?_eq hcontent)
      fun h => hne (hafter h)

/-- **A command changes no file unless it succeeds, and then only the file it writes.** A command
line that does not end well prints no output, makes and changes no file, and every path that led to
a file leads to the same content as before. A page rendered to a file prints nothing; the file then
holds the page that the command line prints without its output, and there is no other change to the
files. -/
theorem runArgs_files (year : Int) (args : List Text) (s : Store) :
    let outcome := ((runArgs year args : StateM Store Outcome).run s).1
    let after := ((runArgs year args : StateM Store Outcome).run s).2
    (outcome.code ≠ 0 → outcome.output = [] ∧ after.files = s.files ∧
      ∀ path octets, s.content? path = some octets → after.content? path = some octets) ∧
    ∀ o path, ofArgs args = .ok (.render o) → o.output = some path → outcome.code = 0 →
      outcome.output = [] ∧
      ofArgs (withoutOutput args) = .ok (.render { o with output := none }) ∧
      ∃ page names,
        (runArgs year (withoutOutput args) : StateM Store Outcome).run s = (.success page, s) ∧
        after.content? path = some (Text.toUtf8 page) ∧
        after.locate path = .ok names ∧
        after.files = Entries.insert s.files (Store.place names) (Text.toUtf8 page) ∧
        ∀ other octets, s.content? other = some octets → after.locate other ≠ .ok names →
          after.content? other = some octets := by
  intro outcome after
  constructor
  · intro hcode
    suffices houtcome : outcome.output = [] ∧ s.Grows after from
      ⟨houtcome.1, houtcome.2.files_eq, fun path octets => houtcome.2.content?_eq⟩
    unfold outcome after runArgs at *
    cases hargs : ofArgs args with
    | error fault => exact ⟨rfl, .refl s⟩
    | ok command =>
      rw [hargs] at hcode
      exact grows_of_code_ne command hcode
  · intro o path hargs houtput hcode
    have hwithout := ofArgs_withoutOutput hargs
    unfold outcome after at *
    rw [runArgs_of_ofArgs hargs] at hcode ⊢
    rw [runArgs_of_ofArgs hwithout]
    obtain ⟨hsilent, page, names, hmade, hfiles⟩ :=
      files_of_ends (ends_run year o s) houtput hcode
    exact ⟨hsilent, hwithout, page, names, run_of_made hmade, hfiles⟩

/-- A page goes to a place outside the folder to work in, and to the file that its data come from; it
goes neither below that file nor to a place without space. -/
theorem runArgs_files_data :
    let s : Store := {
      folders := ["work", "work/templates", "out"]
      files := [("work/templates/a.twig", Text.toUtf8 "<\x7b\x7b n \x7d\x7d>"),
        ("work/d.json", Text.toUtf8 "\x7b\"n\": 1\x7d")]
      current := ⟨"/work"⟩
      fault? := fun op path => if op = .write ∧ path.text = "/out/full" then some .noSpace else none }
    let args (output : Text) : List Text := ["render", "a", "-d", "d.json", "-o", output]
    let render (output : Text) := (runArgs 2024 (args output) : StateM Store Outcome).run s
    let data (s : Store) := s.content? ⟨"d.json"⟩
    (render "/out/p").1 = .success [] ∧
      (render "/out/p").2.content? ⟨"../out/p"⟩ = some (Text.toUtf8 "<1>") ∧
      data (render "/out/p").2 = data s ∧
      (render "d.json").1 = .success [] ∧ data (render "d.json").2 = some (Text.toUtf8 "<1>") ∧
      (render "d.json/x").1.code = 1 ∧ (render "d.json/x").2.files = s.files ∧
      (render "/out/full").1.code = 1 ∧ (render "/out/full").2.files = s.files := by
  intro s args render data
  let options (output : Text) : RenderOptions :=
    ⟨"a", some ⟨"d.json"⟩, [], none, none, some ⟨output⟩⟩
  have hprinted : ((runArgs 2024 ["render", "a", "-d", "d.json"] : StateM Store Outcome).run s).1 =
      .success "<1>" := by decide +kernel
  -- a page that is written can be found at its place, and other files are as before
  have hwritten : ∀ output, (render output).1 = .success [] →
      ofArgs (args output) = .ok (.render (options output)) →
      withoutOutput (args output) = (["render", "a", "-d", "d.json"] : List Text) →
        (render output).2.content? ⟨output⟩ = some (Text.toUtf8 "<1>") ∧
          ∀ other octets, s.content? other = some octets →
            (render output).2.locate other ≠ (render output).2.locate ⟨output⟩ →
              (render output).2.content? other = some octets := by
    intro output hdone hargs hwords
    obtain ⟨-, -, page, names, hpage, hcontent, hlocate, -, hother⟩ :=
      (runArgs_files 2024 (args output) s).2 (options output) ⟨output⟩ hargs rfl
        (congrArg Outcome.code hdone)
    rw [hwords] at hpage
    obtain rfl : page = "<1>" := by
      rw [hpage] at hprinted
      exact congrArg Outcome.output hprinted
    exact ⟨hcontent, fun other octets hold hne => hother other octets hold (hlocate ▸ hne)⟩
  have hfailed : ∀ output, (render output).1.code = 1 → (render output).2.files = s.files :=
    fun output hcode => ((runArgs_files 2024 (args output) s).1 (hcode ▸ Nat.one_ne_zero)).2.1
  have hout : (render "/out/p").1 = .success [] := by decide +kernel
  have hdata : (render "d.json").1 = .success [] := by decide +kernel
  have hbelow : (render "d.json/x").1.code = 1 := by decide +kernel
  have hfull : (render "/out/full").1.code = 1 := by decide +kernel
  obtain ⟨hpage, hother⟩ := hwritten "/out/p" hout rfl (by decide)
  obtain ⟨hpage', -⟩ := hwritten "d.json" hdata rfl (by decide)
  refine ⟨hout, ?_, ?_, hdata, hpage', hbelow, hfailed _ hbelow, hfull, hfailed _ hfull⟩
  · rw [← hpage]
    decide +kernel
  · have hold : data s = some (Text.toUtf8 "\x7b\"n\": 1\x7d") := by decide +kernel
    exact (hother _ _ hold (by decide +kernel)).trans hold.symm

end Run

end PageTemplate.Command
