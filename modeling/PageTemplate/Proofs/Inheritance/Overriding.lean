import PageTemplate.Proofs.Inheritance.LateBinding
import PageTemplate.Proofs.Loader.Found

/-!
# Bodies put in place again

Blocks that have been given their bodies keep them when the same bodies are put in place again,
since a body is taken as it is: blocks within it are not looked at, neither the first time nor the
second. And the blocks of a tree whose names are distinct have the bodies already that the tree
would give them, so a template of this kind that names itself as its parent stays as it is.

## Main definitions

* `PageTemplate.Node.blockNames` — the names of all blocks among nodes, at every depth.

## Main statements

* `PageTemplate.Node.overrideAll_overrideAll` — putting bodies in place twice is putting them in
  place once.
* `PageTemplate.Node.overrideAll_bodiesOf` — blocks with distinct names have their own bodies.
* `PageTemplate.Loader.overrideAll_fixes` — the trees that overriding leaves as they are.
-/

namespace PageTemplate

namespace Node

/-! ### The same bodies twice -/

section Again

variable (bodies : Entries (List Node))

mutual

theorem override_override : (node : Node) →
    override bodies (override bodies node) = override bodies node
  | block name body location => by
    cases hbody : Entries.get? bodies name with
    | some other => simp only [override, hbody]
    | none => simp only [override, hbody, overrideAll_overrideAll body]
  | loop item collection body location => by
    rw [override, override, overrideAll_overrideAll body]
  | choice branches otherwise location => by
    rw [override, override, overrideBranches_overrideBranches branches,
      overrideOtherwise_overrideOtherwise otherwise]
  | text _ _ => rfl
  | output _ _ _ => rfl
  | inherit _ _ => rfl
  | inert _ _ => rfl

/-- Bodies that are in place stay when they are put in place again. -/
theorem overrideAll_overrideAll : (nodes : List Node) →
    overrideAll bodies (overrideAll bodies nodes) = overrideAll bodies nodes
  | [] => rfl
  | node :: nodes => by
    rw [overrideAll, overrideAll, override_override node, overrideAll_overrideAll nodes]

theorem overrideBranches_overrideBranches : (branches : List Branch) →
    overrideBranches bodies (overrideBranches bodies branches) = overrideBranches bodies branches
  | [] => rfl
  | branch :: branches => by
    rw [overrideBranches, overrideBranches, overrideBranch_overrideBranch branch,
      overrideBranches_overrideBranches branches]

theorem overrideBranch_overrideBranch : (branch : Branch) →
    overrideBranch bodies (overrideBranch bodies branch) = overrideBranch bodies branch
  | .mk condition body location => by
    rw [overrideBranch, overrideBranch, overrideAll_overrideAll body]

theorem overrideOtherwise_overrideOtherwise : (otherwise : Option (List Node)) →
    overrideOtherwise bodies (overrideOtherwise bodies otherwise) =
      overrideOtherwise bodies otherwise
  | none => rfl
  | some body => by rw [overrideOtherwise, overrideOtherwise, overrideAll_overrideAll body]

end

end Again

/-! ### Blocks with names of their own -/

/-- The name of a block. -/
def blockName? : Node → Option Text
  | block name _ _ => some name
  | _ => none

/-- The names of the blocks among the nodes, at every depth, in the order of their opening tags. -/
def blockNames (nodes : List Node) : List Text :=
  (preorderAll nodes).filterMap blockName?

theorem mem_blockNames_of_mem {nodes : List Node} {name : Text} {body : List Node}
    {location : Location} (h : block name body location ∈ preorderAll nodes) :
    name ∈ blockNames nodes :=
  List.mem_filterMap.mpr ⟨_, h, rfl⟩

theorem keys_blocksOf (nodes : List Node) :
    Entries.keys (blocksOf nodes) = blockNames nodes := by
  have hname : ∀ node, (block? node).map Prod.fst = blockName? node := by
    intro node
    cases node <;> rfl
  rw [Entries.keys, blocksOf_eq_filterMap, List.map_filterMap, blockNames]
  simp only [hname]

/-- Blocks with distinct names have the bodies that their tree would give them. -/
theorem hasOwnBody_bodiesOf {nodes : List Node} (h : (blockNames nodes).Nodup) (n : Node)
    (hn : n ∈ preorderAll nodes) : n.HasOwnBody (bodiesOf nodes) := by
  cases n with
  | block name body location =>
    intro other hother
    have hkeys : (Entries.keys (blocksOf nodes)).Nodup := keys_blocksOf nodes ▸ h
    have hentry : (name, body) ∈ blocksOf nodes := by
      rw [blocksOf_eq_filterMap]
      exact List.mem_filterMap.mpr ⟨_, hn, rfl⟩
    have hbody : Entries.get? (bodiesOf nodes) name = some body :=
      (Entries.get?_ofList_eq_some_iff hkeys name body).mpr hentry
    exact Option.some.inj (hother.symm.trans hbody)
  | _ => trivial

theorem overrideAll_bodiesOf {nodes : List Node} (h : (blockNames nodes).Nodup) :
    overrideAll (bodiesOf nodes) nodes = nodes :=
  overrideAll_of_hasOwnBody nodes (hasOwnBody_bodiesOf h)

/-- Of two blocks with one name the first gets the body of the last. -/
example :
    let block (content : Text) : Node := .block "a" [.text content .start] .start
    overrideAll (bodiesOf [block "x", block "y"]) [block "x", block "y"] =
      [block "y", block "y"] :=
  rfl

theorem hasNoBody_of_not_mem {bodies : Entries (List Node)} {nodes : List Node}
    (h : ∀ name ∈ blockNames nodes, name ∉ Entries.keys bodies) :
    HasNoBody bodies (preorderAll nodes) :=
  fun name _ _ hblock =>
    (Entries.get?_eq_none_iff bodies name).mpr (h name (mem_blockNames_of_mem hblock))

end Node

/-! ### Templates that are their own parents -/

/-- A template whose blocks have distinct names is the same in its own tree. -/
theorem Template.within_self {t : Template} (h : (Node.blockNames t.nodes).Nodup) :
    t.within (some t) = t := by
  obtain ⟨nodes, location⟩ := t
  exact congrArg (Template.mk · location) (Node.overrideAll_bodiesOf h)

namespace Loader

variable {σ : Type} [Files (StateM σ)]

/-- **What overriding leaves as it is.** Bodies that are in place stay when they are put in place
again, bodies for names that no block has change nothing, and a tree whose blocks have distinct
names is not changed by the bodies of its own blocks. So a template of this kind stays as it is if
the name of its parent leads to the template itself. -/
theorem overrideAll_fixes (t : Template) :
    (∀ bodies : Entries (List Node),
      Node.overrideAll bodies (Node.overrideAll bodies t.nodes) =
        Node.overrideAll bodies t.nodes) ∧
    (∀ bodies : Entries (List Node),
      (∀ name ∈ Node.blockNames t.nodes, name ∉ Entries.keys bodies) →
        Node.overrideAll bodies t.nodes = t.nodes) ∧
    ((Node.blockNames t.nodes).Nodup →
      Node.overrideAll (Node.bodiesOf t.nodes) t.nodes = t.nodes ∧
      ∀ (l : Loader) (name : Text) (location : Location) (s s' : σ),
        t.parent? = some (name, location) →
        (l.load? name : StateM σ _).run s = (some t, s') →
          (l.inherit t : StateM σ _).run s = (t, s')) := by
  refine ⟨fun bodies => Node.overrideAll_overrideAll bodies t.nodes,
    fun bodies h => Node.overrideAll_eq_self t.nodes (Node.hasNoBody_of_not_mem h),
    fun h => ⟨Node.overrideAll_bodiesOf h, fun l name location s s' hparent hload => ?_⟩⟩
  rw [inherit_of_parent? l hparent, StateT.run_map, hload]
  exact congrArg (·, s') (Template.within_self h)

/-- A template that names itself as its parent, with a block in a loop in a block, and a body for
another name. -/
theorem overrideAll_fixes_page :
    let source : Text := "\x7b%extends 'page'%\x7d\x7b%block a%\x7d\x7b%for x in xs%\x7d" ++
      "\x7b%block b%\x7d-\x7b%endblock%\x7d\x7b%endfor%\x7d\x7b%endblock%\x7d"
    let t := Template.parse source
    let l : Loader := ⟨⟨"templates"⟩, defaultExtension⟩
    let s : Store :=
      { folders := ["templates"], files := [("templates/page.twig", Text.toUtf8 source)] }
    let bodies : Entries (List Node) := [("z", [.text "?" .start])]
    Node.blockNames t.nodes = [("a" : Text), ("b" : Text)] ∧
    t.parent? = some (("page" : Text), Location.start) ∧
    (l.load? "page" : StateM Store _).run s = (some t, s) ∧
    (l.inherit t : StateM Store _).run s = (t, s) ∧
    Node.overrideAll bodies t.nodes = t.nodes := by
  intro source t l s bodies
  have hnames : Node.blockNames t.nodes = [("a" : Text), ("b" : Text)] := by decide +kernel
  have hparent : t.parent? = some (("page" : Text), Location.start) := by decide +kernel
  have hpath : l.resolve? "page" = some ⟨"templates/page.twig"⟩ := by decide +kernel
  have hcontent : Files.content? s ⟨"templates/page.twig"⟩ = some (Text.toUtf8 source) :=
    Store.filesContent?_of_content? rfl rfl (by decide +kernel)
  have hsource : Text.ofUtf8Lossy (Text.toUtf8 source) = source := by decide +kernel
  have hload : (l.load? "page" : StateM Store _).run s = (some t, s) := by
    rw [run_load?, found?_of_resolve? hpath hcontent, hsource]
  obtain ⟨-, hnone, hself⟩ := overrideAll_fixes (σ := Store) t
  have hnodup : (Node.blockNames t.nodes).Nodup := by
    rw [hnames]
    decide
  refine ⟨hnames, hparent, hload, (hself hnodup).2 l "page" .start s s hparent hload, ?_⟩
  refine hnone bodies fun name hname => ?_
  rw [hnames] at hname
  revert name
  decide

end Loader

end PageTemplate
