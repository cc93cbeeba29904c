import PageTemplate.Engine
import PageTemplate.Proofs.Filter.Flags
import PageTemplate.Proofs.Render.Agreement

/-!
# Pages and the order of keys

Objects keep the order of their keys, but a page shows this order only where it writes a value as
JSON. Without that filter, values that differ in the order of keys at any depth give the same page.
With it, the order of the top-level keys still does not count, since no path leads to globals or
data as a whole; so globals may be added in any order.

## Main definitions

* `PageTemplate.Value.Reordered` — values that differ in the order of keys only.
* `PageTemplate.Engine.addGlobals` — globals added one by one.

## Main statements

* `PageTemplate.Entries.get?_of_perm` — looking a key up does not depend on the order.
* `PageTemplate.Value.isLikeness_reordered` — texts, conditions, fields and items do not show the
  order of keys.
* `PageTemplate.Chain.respects_reordered_iff` — of the filters only `json_encode` shows it.
* `PageTemplate.Engine.render_eq_of_reordered` — pages without this filter do not show it.
-/

namespace PageTemplate

/-! ### Entries in another order -/

namespace Entries

variable {α : Type}

/-- **Looking a key up does not depend on the order** of entries, as long as no key is repeated. -/
theorem get?_of_perm {m n : Entries α} (hm : (keys m).Nodup) (h : m.Perm n) (key : Text) :
    get? m key = get? n key := by
  have hn : (keys n).Nodup := (h.map Prod.fst).nodup_iff.mp hm
  refine Option.ext fun value => ?_
  rw [get?_eq_some_iff hm, get?_eq_some_iff hn, h.mem_iff]

/-- Distinct keys can be inserted in any order. -/
theorem get?_insertAll_of_perm (m : Entries α) {added added' : List (Text × α)}
    (hkeys : (keys added).Nodup) (h : added.Perm added') (key : Text) :
    get? (m.insertAll added) key = get? (m.insertAll added') key := by
  have horder : added.reverse.Perm added'.reverse :=
    (added.reverse_perm.trans h).trans added'.reverse_perm.symm
  rw [get?_insertAll, get?_insertAll, get?_of_perm (nodup_keys_reverse hkeys) horder]

end Entries

/-! ### Values in another order -/

mutual

/-- The values are the same up to the order of the keys of objects, at any depth. The keys of an
object are distinct. -/
inductive Value.Reordered : Value → Value → Prop
  | null : Value.Reordered .null .null
  | bool (b : Bool) : Value.Reordered (.bool b) (.bool b)
  | int (n : Int64) : Value.Reordered (.int n) (.int n)
  | float (x : Float) : Value.Reordered (.float x) (.float x)
  | string (s : Text) : Value.Reordered (.string s) (.string s)
  | array {items items' : List Value} (hitems : List.Forall₂ Value.Reordered items items') :
    Value.Reordered (.array items) (.array items')
  | object {entries between entries' : Entries Value} (hkeys : (Entries.keys entries).Nodup)
    (horder : entries.Perm between)
    (hentries : List.Forall₂ Value.ReorderedEntry between entries') :
    Value.Reordered (.object entries) (.object entries')

/-- The entries have the same key, and values that are the same up to the order of keys. -/
inductive Value.ReorderedEntry : Text × Value → Text × Value → Prop
  | mk (key : Text) {v w : Value} (hvalue : Value.Reordered v w) :
    Value.ReorderedEntry (key, v) (key, w)

end

namespace Value

theorem get?_rel_of_forall₂ {m n : Entries Value} (h : List.Forall₂ ReorderedEntry m n)
    (key : Text) : Option.Rel Reordered (Entries.get? m key) (Entries.get? n key) := by
  induction h with
  | nil => exact .none
  | cons hentry _ ih =>
    cases hentry with
    | mk k hvalue =>
      rw [Entries.get?_cons, Entries.get?_cons]
      split
      · exact .some hvalue
      · exact ih

theorem field?_eq (v : Value) (key : Text) : v.field? key = Entries.get? v.entries key := by
  cases v <;> rfl

theorem Reordered.field?_rel {v w : Value} (h : Reordered v w) (key : Text) :
    Option.Rel Reordered (v.field? key) (w.field? key) := by
  cases h with
  | object hkeys horder hentries =>
    rw [field?, field?, Entries.get?_of_perm hkeys horder]
    exact get?_rel_of_forall₂ hentries key
  | _ => exact .none

theorem Reordered.itemsOf_rel {v w : Value} (h : Reordered v w) :
    List.Forall₂ Reordered (Render.itemsOf (some v)) (Render.itemsOf (some w)) := by
  cases h with
  | array hitems => exact hitems
  | _ => exact .nil

theorem Reordered.isTruthy_eq {v w : Value} (h : Reordered v w) : v.isTruthy = w.isTruthy := by
  cases h with
  | array hitems => cases hitems <;> rfl
  | _ => rfl

/-- Texts, conditions, fields and items do not show the order of keys. -/
theorem isLikeness_reordered : IsLikeness Reordered where
  text_eq v w h := by cases h <;> rfl
  isTruthy_eq v w h := h.isTruthy_eq
  isContainer_eq v w h := by cases h <;> rfl
  field?_rel v w h := h.field?_rel
  itemsOf_rel v w h := h.itemsOf_rel

end Value

namespace Chain

theorem count_eq_of_reordered {v w : Value} (h : v.Reordered w) (text : Text) :
    count (some v) text = count (some w) text := by
  cases h with
  | array hitems => exact hitems.length_eq
  | object hkeys horder hentries => exact horder.length_eq.trans hentries.length_eq
  | _ => rfl

/-- Filters other than `json_encode` do not show the order of keys. -/
theorem respects_reordered {chain : Chain} (hjson : chain.jsonEncode = false) :
    chain.Respects Value.Reordered := by
  intro v w h
  have htext : v.text = w.text := Value.isLikeness_reordered.text_eq v w h
  have htransform (text : Text) :
      chain.transform (some v) text = chain.transform (some w) text := by
    simp only [transform, count_eq_of_reordered h]
  simp only [apply, hjson, Bool.false_eq_true, if_false, Option.map_some, htext, htransform]

/-- The order of keys is shown by `json_encode`, and by no other filter. -/
theorem respects_reordered_iff (chain : Chain) :
    chain.Respects Value.Reordered ↔ chain.jsonEncode = false := by
  refine ⟨fun h => eq_false_of_ne_true fun hjson => ?_, respects_reordered⟩
  have horder : (Value.object [("a", .null), ("b", .null)]).Reordered
      (.object [("b", .null), ("a", .null)]) :=
    .object (by decide) (.swap _ _ _) (.cons (.mk _ .null) (.cons (.mk _ .null) .nil))
  have happly := h _ _ horder
  simp only [apply, hjson, if_true, finish] at happly
  -- neither the JSON texts nor their escaped forms are equal
  split at happly <;> exact absurd happly (by decide +kernel)

end Chain

/-! ### Scopes in another order -/

namespace Scope

theorem alike_ofData {globals globals' : Entries Value} {data data' : Value}
    (hglobals : (Value.object globals).Reordered (.object globals'))
    (hdata : data.Reordered data') :
    (ofData globals data).Alike Value.Reordered (fun _ => True) (fun _ => True)
      (ofData globals' data') := by
  have htop (name : Text) : Option.Rel Value.Reordered ((ofData globals data).topLevel? name)
      ((ofData globals' data').topLevel? name) := by
    have hlayer := hdata.field?_rel name
    rw [Value.field?_eq, Value.field?_eq] at hlayer
    exact optionRel_or hlayer (hglobals.field?_rel name)
  exact ⟨fun name _ => htop name, fun _ _ => rfl, fun name _ => htop name⟩

theorem agreesOn_of_get?_eq {globals globals' : Entries Value} {data data' : Value}
    (hglobals : ∀ name, Entries.get? globals name = Entries.get? globals' name)
    (hdata : ∀ name, Entries.get? data.entries name = Entries.get? data'.entries name) :
    (ofData globals data).AgreesOn (fun _ => True) (ofData globals' data') where
  items := rfl
  topLevel name _ := by simp only [topLevel?, ofData, hglobals, hdata]

end Scope

/-! ### Pages -/

namespace Template

variable {globals globals' : Entries Value} {data data' : Value}

theorem render_reordered (t : Template)
    (hjson : ∀ source e location, Node.output source (some e) location ∈ Node.preorderAll t.nodes →
      e.hasFilter "json_encode" = false)
    (hglobals : (Value.object globals).Reordered (.object globals'))
    (hdata : data.Reordered data') : t.render globals data = t.render globals' data' := by
  refine Node.renderAll_alike Value.isLikeness_reordered t.nodes (fun n hn => ?_)
    (Scope.alike_ofData hglobals hdata)
  cases n with
  | output source expression location =>
    cases expression with
    | none => trivial
    | some e =>
      have hflag : (Chain.ofFilters e.filters).jsonEncode = false := by
        rw [Chain.isFlag_jsonEncode.ofFilters]
        exact hjson source e location hn
      exact ⟨(Chain.respects_reordered_iff _).mpr hflag, fun _ => trivial, fun _ => trivial⟩
  | choice branches otherwise location => exact fun _ _ => trivial
  | _ => trivial

theorem render_eq_of_get?_eq (t : Template)
    (hglobals : ∀ name, Entries.get? globals name = Entries.get? globals' name)
    (hdata : ∀ name, Entries.get? data.entries name = Entries.get? data'.entries name) :
    t.render globals data = t.render globals' data' :=
  Node.renderAll_congr t.nodes (fun _ _ _ _ => trivial) (Scope.agreesOn_of_get?_eq hglobals hdata)

end Template

namespace Engine

/-- The engine with values for globals that are added one by one. -/
def addGlobals (e : Engine) (added : List (Text × Value)) : Engine :=
  added.foldl (fun e (key, value) => e.addGlobal key value) e

theorem addGlobals_eq (e : Engine) (added : List (Text × Value)) :
    e.addGlobals added = { e with globals := e.globals.insertAll added } := by
  induction added generalizing e with
  | nil => rfl
  | cons entry added ih =>
    obtain ⟨key, value⟩ := entry
    exact ih (e.addGlobal key value)

variable {m : Type → Type} [Monad m] [Files m]

/-- Engines with one loader differ only by what their globals do to pages. -/
theorem render_congr {e e' : Engine} (hloader : e.loader = e'.loader)
    (h : ∀ (t : Template) data, t.render e.globals data = t.render e'.globals data) (data : Value) :
    (∀ name, (e.render name data : m (Except Loader.Fault Text)) = e'.render name data) ∧
      ∀ source, (e.renderSource source data : m Text) = e'.renderSource source data := by
  have htemplate (t : Template) :
      (e.renderTemplate t data : m Text) = e'.renderTemplate t data := by
    simp only [renderTemplate, hloader, h]
  exact ⟨fun name => by simp only [render, hloader, htemplate], fun source => htemplate _⟩

/-- **The order of keys does not show on pages** of templates without `json_encode`, at whatever
depth it is changed. On no page does the order of the top-level keys show, of globals or of data; so
globals with distinct keys can be added to an engine in any order. -/
theorem render_eq_of_reordered :
    (∀ (t : Template) {globals globals' : Entries Value} {data data' : Value},
      (∀ source e location, Node.output source (some e) location ∈ Node.preorderAll t.nodes →
        e.hasFilter "json_encode" = false) →
      (Value.object globals).Reordered (.object globals') → data.Reordered data' →
        t.render globals data = t.render globals' data') ∧
    (∀ (t : Template) {globals globals' : Entries Value} {data data' : Value},
      (Entries.keys globals).Nodup → globals.Perm globals' →
      (Entries.keys data.entries).Nodup → data.entries.Perm data'.entries →
        t.render globals data = t.render globals' data') ∧
    ∀ (e : Engine) {added added' : List (Text × Value)},
      (Entries.keys added).Nodup → added.Perm added' → ∀ data,
        (∀ name, ((e.addGlobals added).render name data : m (Except Loader.Fault Text)) =
          (e.addGlobals added').render name data) ∧
        ∀ source, ((e.addGlobals added).renderSource source data : m Text) =
          (e.addGlobals added').renderSource source data := by
  refine ⟨fun t => t.render_reordered, ?_, ?_⟩
  · intro t globals globals' data data' hglobals hglobals' hdata hdata'
    exact t.render_eq_of_get?_eq (Entries.get?_of_perm hglobals hglobals')
      (Entries.get?_of_perm hdata hdata')
  · intro e added added' hkeys h
    rw [addGlobals_eq, addGlobals_eq]
    exact render_congr rfl fun t data => t.render_eq_of_get?_eq
      (Entries.get?_insertAll_of_perm e.globals hkeys h) fun _ => rfl

/-- The size of an object and the rows of a table, from data in two orders; a page that writes an
object as JSON, from globals in two orders; and an engine that gets two globals. -/
theorem render_eq_of_reordered_table :
    let t : Template := ⟨[.output [] (some ⟨⟨["stats"], .start⟩, [⟨"length", []⟩]⟩) .start,
      .loop "r" ⟨["rows"], .start⟩ [.output [] (some ⟨⟨["r", "a"], .start⟩, []⟩) .start] .start],
      .start⟩
    let json : Template :=
      ⟨[.output [] (some ⟨⟨["stats"], .start⟩, [⟨"json_encode", []⟩, ⟨"raw", []⟩]⟩) .start], .start⟩
    let stats : Value := .object [("x", .int 1), ("y", .null)]
    let stats' : Value := .object [("y", .null), ("x", .int 1)]
    let row : Value := .object [("a", .string "<"), ("b", .bool true)]
    let row' : Value := .object [("b", .bool true), ("a", .string "<")]
    let data : Value := .object [("stats", stats), ("rows", .array [row])]
    let data' : Value := .object [("rows", .array [row']), ("stats", stats')]
    let added : List (Text × Value) := [("debug", .bool true), ("year", .int 2026)]
    let e : Engine := .ofLoader ⟨⟨"templates"⟩, Loader.defaultExtension⟩
    ((∀ source e location, Node.output source (some e) location ∈ Node.preorderAll t.nodes →
        e.hasFilter "json_encode" = false) ∧
      (Value.object []).Reordered (.object []) ∧ data.Reordered data' ∧
      t.render [] data = "2&lt;" ∧ t.render [] data = t.render [] data') ∧
    (json.render [("stats", stats), ("year", .int 2026)] .null = "\x7b\"x\":1,\"y\":null\x7d" ∧
      json.render [("stats", stats), ("year", .int 2026)] .null =
        json.render [("year", .int 2026), ("stats", stats)] .null) ∧
    ((e.addGlobals added).renderSource "\x7b\x7b year \x7d\x7d" .null : StateM Store Text) =
      (e.addGlobals added.reverse).renderSource "\x7b\x7b year \x7d\x7d" .null := by
  intro t json stats stats' row row' data data' added e
  obtain ⟨hdeep, htop, hadded⟩ := render_eq_of_reordered (m := StateM Store)
  have hjson : ∀ source e location,
      Node.output source (some e) location ∈ Node.preorderAll t.nodes →
        e.hasFilter "json_encode" = false := by
    intro source e location h
    simp only [t, Node.preorderAll, Node.preorder, List.append_nil, List.mem_cons,
      List.cons_append, List.nil_append, reduceCtorEq, Node.output.injEq, Option.some.injEq,
      List.not_mem_nil, false_or, or_false] at h
    rcases h with ⟨-, rfl, -⟩ | ⟨-, rfl, -⟩ <;> decide
  have hglobals : (Value.object []).Reordered (.object []) := .object .nil .nil .nil
  have hstats : stats.Reordered stats' :=
    .object (by decide) (.swap _ _ _) (.cons (.mk _ .null) (.cons (.mk _ (.int 1)) .nil))
  have hrow : row.Reordered row' :=
    .object (by decide) (.swap _ _ _) (.cons (.mk _ (.bool true)) (.cons (.mk _ (.string _)) .nil))
  have hdata : data.Reordered data' :=
    .object (by decide) (.swap _ _ _)
      (.cons (.mk _ (.array (.cons hrow .nil))) (.cons (.mk _ hstats) .nil))
  exact ⟨⟨hjson, hglobals, hdata, by decide +kernel, hdeep t hjson hglobals hdata⟩,
    ⟨by decide +kernel, htop json (by decide) (.swap _ _ _) .nil .nil⟩,
    (hadded e (by decide) (added.reverse_perm).symm .null).2 _⟩

end Engine

end PageTemplate
