import PageTemplate.Command.Run
import PageTemplate.Proofs.File.Writing
import PageTemplate.Proofs.Render.KeyOrder

/-!
# Where a global comes from

The globals of an engine are laid down in layers: the built-in ones, those of the settings, and
those that are added to the engine, from a command line or otherwise. Each layer replaces values of
the layers below it, and the data of a page shadow them all. A key stands where it was first
laid down, whatever replaces its value later.

## Main definitions

* `PageTemplate.Settings.builtinNames` — the names of the built-in globals.
* `PageTemplate.Settings.builtin?` — what each of these names means.
* `PageTemplate.Engine.layered?` — the value of a global, looked for in one layer after the other.

## Main statements

* `PageTemplate.Settings.nodup_keys_of_ofYaml` — settings that are read give no global twice.
* `PageTemplate.Command.toOption_assign` — the assignments of a command line are globals that are
  added.
* `PageTemplate.Engine.globals_layered` — values, keys and their order in an engine.
-/

namespace PageTemplate

namespace Settings

/-! ### Settings give no global twice -/

theorem nodup_keys_of_readGlobals {node : Yaml.Node} {globals : Entries Json}
    (h : readGlobals node = .ok globals) : (Entries.keys globals).Nodup := by
  obtain ⟨pairs, -, hread⟩ := bind_eq_ok_iff.mp h
  obtain ⟨read, -, hglobals⟩ := bind_eq_ok_iff.mp hread
  rw [← Except.ok.inj hglobals]
  exact Entries.nodup_keys_ofList read

theorem nodup_keys_of_ofNode {node : Yaml.Node} {s : Settings} (h : ofNode node = .ok s) :
    (Entries.keys s.globals).Nodup := by
  obtain ⟨pairs, -, hparts⟩ := bind_eq_ok_iff.mp h
  obtain ⟨app, -, hparts⟩ := bind_eq_ok_iff.mp hparts
  obtain ⟨templates, -, hparts⟩ := bind_eq_ok_iff.mp hparts
  obtain ⟨globals, hpart, hs⟩ := bind_eq_ok_iff.mp hparts
  rw [← Except.ok.inj hs]
  obtain ⟨field, -, hpart⟩ := bind_eq_ok_iff.mp hpart
  cases field with
  | none =>
    rw [← Except.ok.inj hpart]
    exact List.nodup_nil
  | some node => exact nodup_keys_of_readGlobals hpart

theorem eq_of_validate {s read : Settings} (h : validate read = .ok s) : s = read := by
  unfold validate at h
  split at h
  · exact (Except.ok.inj h).symm
  · cases h

/-- Settings that are read give no global twice. -/
theorem nodup_keys_of_ofYaml {source : Text} {s : Settings} (h : ofYaml source = .ok s) :
    (Entries.keys s.globals).Nodup := by
  unfold ofYaml at h
  split at h
  · rw [eq_of_validate h]
    exact List.nodup_nil
  · obtain ⟨node, -, hsettings⟩ := bind_eq_ok_iff.mp h
    obtain ⟨read, hread, hvalid⟩ := bind_eq_ok_iff.mp hsettings
    rw [eq_of_validate hvalid]
    cases hnode : ofNode (node.getD Yaml.Node.empty) with
    | error fault => rw [hnode] at hread; cases hread
    | ok settings =>
      rw [hnode] at hread
      rw [← Except.ok.inj hread]
      exact nodup_keys_of_ofNode hnode

/-! ### Built-in globals and those of the settings -/

/-- The names of the built-in globals. -/
def builtinNames : List Text :=
  ["app_name", "base_url", "current_year", "debug", "isAuthenticated"]

/-- The built-in meaning of a name: name and address of the application, the year as a number,
whether the application is being debugged, and that nobody is signed in. -/
def builtin? (s : Settings) (year : Int) (name : Text) : Option Value :=
  if name = "app_name" then some (.string s.app.name)
  else if name = "base_url" then some (.string s.app.url)
  else if name = "current_year" then some (.int (Int64.ofInt year))
  else if name = "debug" then some (.bool s.app.debug)
  else if name = "isAuthenticated" then some (.bool false)
  else none

theorem keys_builtinGlobals (s : Settings) (year : Int) :
    Entries.keys (s.builtinGlobals year) = builtinNames := rfl

theorem get?_builtinGlobals (s : Settings) (year : Int) (name : Text) :
    Entries.get? (s.builtinGlobals year) name = s.builtin? year name := rfl

theorem get?_map_ofJson (globals : Entries Json) (name : Text) :
    Entries.get? (globals.map fun (key, json) => (key, Value.ofJson json)) name =
      (Entries.get? globals name).map Value.ofJson := by
  induction globals with
  | nil => rfl
  | cons entry globals ih =>
    rw [List.map_cons, Entries.get?_cons, Entries.get?_cons, ih]
    split <;> rfl

end Settings

/-! ### Assignments of a command line -/

/-- The assignments of a command line are globals that are added in their order, with texts as
values. There is no engine if one of them is no assignment. -/
theorem Command.toOption_assign (e : Engine) (assignments : List Text) :
    (assign e assignments).toOption =
      (assignments.mapM assignment?).map fun pairs =>
        e.addGlobals (pairs.map fun (key, value) => (key, .string value)) := by
  induction assignments generalizing e with
  | nil => rfl
  | cons s rest ih =>
    rw [assign, List.mapM_cons]
    cases assignment? s with
    | none => rfl
    | some pair =>
      dsimp only
      rw [ih]
      cases rest.mapM assignment? <;> rfl

/-! ### Layers -/

namespace Engine

variable (settings : Settings) (year : Int) (added : List (Text × Value))

/-- The value of a global: the last one that was added, else that of the settings, else the built-in
one. -/
def layered? (name : Text) : Option Value :=
  (Entries.get? added.reverse name).or
    (((Entries.get? settings.globals name).map Value.ofJson).or (settings.builtin? year name))

theorem globals_addGlobals (e : Engine) :
    (e.addGlobals added).globals = e.globals.insertAll added := by
  rw [addGlobals_eq]

theorem nodup_keys_globals :
    (Entries.keys ((ofSettings settings year).addGlobals added).globals).Nodup := by
  have hbuiltin : (Entries.keys (settings.builtinGlobals year)).Nodup := by
    rw [Settings.keys_builtinGlobals]
    decide
  rw [globals_addGlobals]
  exact Entries.nodup_keys_insertAll (Entries.nodup_keys_insertAll hbuiltin _) added

variable {settings}

theorem get?_globals (hkeys : (Entries.keys settings.globals).Nodup) (name : Text) :
    Entries.get? ((ofSettings settings year).addGlobals added).globals name =
      layered? settings year added name := by
  have hfile :
      Entries.get? (settings.globals.map fun (key, json) => (key, Value.ofJson json)).reverse name =
        (Entries.get? settings.globals name).map Value.ofJson := by
    rw [← List.map_reverse, Settings.get?_map_ofJson,
      Entries.get?_of_perm (Entries.nodup_keys_reverse hkeys) settings.globals.reverse_perm]
  rw [globals_addGlobals, Entries.get?_insertAll, ofSettings, Settings.pageGlobals,
    Entries.get?_insertAll, hfile, Settings.get?_builtinGlobals, layered?]

/-- The names of the globals stand where they were first laid down. -/
theorem keys_globals (hkeys : (Entries.keys settings.globals).Nodup) :
    Entries.keys ((ofSettings settings year).addGlobals added).globals =
      Settings.builtinNames ++
        (Entries.keys settings.globals).removeAll Settings.builtinNames ++
        ((Entries.keys added).removeAll
          (Settings.builtinNames ++ Entries.keys settings.globals)).eraseDups := by
  have hfile : Entries.keys (settings.globals.map fun (key, json) => (key, Value.ofJson json)) =
      Entries.keys settings.globals := by
    simp [Entries.keys, Function.comp_def]
  have hnodup : ((Entries.keys settings.globals).removeAll Settings.builtinNames).Nodup :=
    hkeys.filter _
  have hsettings : Entries.keys (settings.pageGlobals year) = Settings.builtinNames ++
      (Entries.keys settings.globals).removeAll Settings.builtinNames := by
    rw [Settings.pageGlobals, Entries.keys_insertAll, hfile, Settings.keys_builtinGlobals,
      Entries.eraseDups_of_nodup hnodup]
  rw [globals_addGlobals, Entries.keys_insertAll, ofSettings, hsettings,
    Entries.removeAll_append_removeAll]

/-- **Globals come in layers.** Settings that are read give no global twice. In an engine of such
settings a name means, outside all loops, what the data of the page say if they are an object with
this name, else the value that was last added for it, else that of the settings, else the built-in
one, and else nothing. Every global is listed once with its value: the built-in ones first, then the
others of the settings in their order, then those that were added, in the order in which they were
first added; and further additions move none. Assignments of a command line are additions. -/
theorem globals_layered (year : Int) :
    (∀ source settings, Settings.ofYaml source = .ok settings →
      (Entries.keys settings.globals).Nodup) ∧
    ∀ settings : Settings, (Entries.keys settings.globals).Nodup →
      ∀ added : List (Text × Value),
        let e := (ofSettings settings year).addGlobals added
        (∀ data name, (Scope.ofData e.globals data).topLevel? name =
          (data.field? name).or (layered? settings year added name)) ∧
        (Entries.keys e.globals).Nodup ∧
        (∀ name value, (name, value) ∈ e.globals ↔
          layered? settings year added name = some value) ∧
        Entries.keys e.globals =
          Settings.builtinNames ++
            (Entries.keys settings.globals).removeAll Settings.builtinNames ++
            ((Entries.keys added).removeAll
              (Settings.builtinNames ++ Entries.keys settings.globals)).eraseDups ∧
        (∀ more, Entries.keys e.globals <+: Entries.keys (e.addGlobals more).globals) ∧
        ∀ assignments, (Command.assign e assignments).toOption =
          (assignments.mapM Command.assignment?).map fun pairs =>
            e.addGlobals (pairs.map fun (key, value) => (key, .string value)) := by
  refine ⟨fun source settings => Settings.nodup_keys_of_ofYaml, ?_⟩
  intro settings hkeys added e
  have hget : ∀ name, Entries.get? e.globals name = layered? settings year added name :=
    get?_globals year added hkeys
  have hnodup : (Entries.keys e.globals).Nodup := nodup_keys_globals settings year added
  refine ⟨?_, hnodup, ?_, keys_globals year added hkeys, ?_, Command.toOption_assign e⟩
  · intro data name
    rw [Scope.topLevel?, Value.field?_eq, ← hget]
    rfl
  · intro name value
    rw [← hget, Entries.get?_eq_some_iff hnodup]
  · intro more
    rw [globals_addGlobals more e, Entries.keys_insertAll]
    exact List.prefix_append _ _

/-- Settings with an address and another value for `debug`, and an engine that gets this value, the
address and a number once more. -/
theorem globals_layered_mail :
    let settings : Settings :=
      { Settings.default with globals := [("debug", .string "no"), ("mail", .string "a@b")] }
    let added : List (Text × Value) :=
      [("mail", .null), ("n", .int 1), ("debug", .bool true), ("n", .int 2)]
    let e := (ofSettings settings 2026).addGlobals added
    let shown (data : Value) (name : Text) : Option Text :=
      ((Scope.ofData e.globals data).topLevel? name).map Value.text
    (Entries.keys settings.globals).Nodup ∧
    Entries.keys e.globals = Settings.builtinNames ++ [("mail" : String).toList, ['n']] ∧
    (∀ data name, shown data name =
      ((data.field? name).or (layered? settings 2026 added name)).map Value.text) ∧
    shown .null "n" = some "2" ∧ shown (.object [("n", .string "x")]) "n" = some "x" ∧
    shown .null "debug" = some "1" ∧ shown .null "mail" = some [] ∧
    shown .null "app_name" = some "TicketFlow" ∧ shown .null "current_year" = some "2026" ∧
    shown .null "mails" = none := by
  intro settings added e shown
  have hkeys : (Entries.keys settings.globals).Nodup := by decide
  obtain ⟨hvalue, -, -, horder, -⟩ := (globals_layered 2026).2 settings hkeys added
  have hshown : ∀ data name, shown data name =
      ((data.field? name).or (layered? settings 2026 added name)).map Value.text :=
    fun data name => congrArg (Option.map Value.text) (hvalue data name)
  exact ⟨hkeys, horder, hshown, by decide, by decide, by decide, by decide, by decide, by decide,
    by decide⟩

end Engine

end PageTemplate
