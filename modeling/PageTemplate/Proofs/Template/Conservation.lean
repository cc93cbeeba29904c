import Mathlib.Data.List.Forall2
import PageTemplate.Proofs.Node.Preorder
import PageTemplate.Proofs.Template.Nesting

/-!
# No token is lost

The nodes of a template in preorder are its tokens in order, apart from the tags that close a part
or begin a branch of a choice. What becomes of a tag is decided by the parts that are open before
it, and a part that is opened appears as a node of its own or, if it is never closed, as an inert
tag.

## Main definitions

* `PageTemplate.Node.IsOpenedBy` — a block, loop or choice that a tag opens.
* `PageTemplate.Token.Becomes` — the nodes that a token may become.
* `PageTemplate.Nesting.kept` — the tokens that stay in the tree.

## Main statements

* `PageTemplate.Builder.becomes_foldl_read`, `PageTemplate.Builder.countP_foldl_read` — the
  invariants of reading tokens.
* `PageTemplate.Template.preorder_ofTokens` — the account of all tokens.
-/

namespace PageTemplate

/-- The construct of a node that has a closing tag. -/
def Node.construct? : Node → Option Construct
  | .block _ _ _ => some .block
  | .loop _ _ _ _ => some .loop
  | .choice _ _ _ => some .choice
  | _ => none

/-- The node is the part that the tag opens, with what the tag says about it. The first branch of a
choice has the condition and the place of the tag. -/
def Node.IsOpenedBy : Node → Token → Prop
  | .block name _ location, t => t.directive? = some (.openBlock name) ∧ location = t.location
  | .loop item collection _ location, t =>
    ∃ path, t.directive? = some (.openLoop item path) ∧
      collection = Path.lenient path t.location ∧ location = t.location
  | .choice branches _ location, t =>
    ∃ condition, t.directive? = some (.openChoice condition) ∧
      branches.head?.map (fun branch => (branch.condition, branch.location)) =
        some (Condition.parse condition t.location, t.location) ∧
      location = t.location
  | _, _ => False

/-- The node is what the token becomes: its own node, or the part that it opens. -/
def Token.Becomes (t : Token) (node : Node) : Prop :=
  node = t.leaf ∨ node.IsOpenedBy t

/-- The tokens that stay in the tree. -/
def Nesting.kept (n : Nesting) (tokens : List Token) : List Token :=
  ((fates n tokens).filter fun entry => entry.2 = .kept).map Prod.fst

theorem Nesting.kept_cons (n : Nesting) (t : Token) (tokens : List Token) :
    kept n (t :: tokens) = (if n.fate t = .kept then [t] else []) ++ kept (n.next t) tokens := by
  rw [kept, fates, List.filter_cons]
  split <;> simp_all [kept]

theorem Nesting.kept_sublist (n : Nesting) (tokens : List Token) :
    (kept n tokens).Sublist tokens := by
  have h : (kept n tokens).Sublist ((fates n tokens).map Prod.fst) := List.filter_sublist.map _
  rwa [map_fst_fates] at h

/-! ### Frames and their tags -/

namespace Frame

/-- The tag that opened the frame. -/
def opener (f : Frame) : Token := ⟨.tag, f.source, f.location⟩

/-- The frame agrees with the tag that opened it. -/
def IsOpened (f : Frame) : Prop :=
  match f.opening with
  | .block name => f.opener.directive? = some (.openBlock name)
  | .loop item collection =>
    ∃ path, f.opener.directive? = some (.openLoop item path) ∧
      collection = Path.lenient path f.location
  | .choice done pending =>
    ∃ condition, f.opener.directive? = some (.openChoice condition) ∧
      (done.map (fun branch => (branch.condition, branch.location)) ++ pending.toList).head? =
        some (Condition.parse condition f.location, f.location)

theorem isOpened_of_opening? {t : Token} {opening : Opening} (h : t.opening? = some opening) :
    IsOpened ⟨opening, t.value, t.location, []⟩ := by
  obtain ⟨kind, value, location⟩ := t
  have hkind : kind = .tag := by
    by_contra hne
    simp [Token.opening?, Token.directive?, hne] at h
  subst hkind
  unfold Token.opening? at h
  split at h <;> cases h
  · assumption
  · next path hd => exact ⟨path, hd, rfl⟩
  · next condition hd => exact ⟨condition, hd, rfl⟩

theorem isOpened_nextBranch? {f f' : Frame} {next : Option (Condition × Location)}
    (h : f.nextBranch? next = some f') (hf : f.IsOpened) : f'.IsOpened := by
  obtain ⟨opening, source, location, nodes⟩ := f
  simp only [nextBranch?] at h
  split at h
  · next done condition place =>
    cases h
    obtain ⟨text, hd, hhead⟩ := hf
    refine ⟨text, hd, ?_⟩
    rw [← hhead]
    cases done <;> rfl
  · cases h

theorem isOpenedBy_close {f : Frame} (hf : f.IsOpened) : f.close.IsOpenedBy f.opener := by
  obtain ⟨opening, source, location, nodes⟩ := f
  cases opening with
  | block name => exact ⟨hf, rfl⟩
  | loop item collection =>
    obtain ⟨path, hd, hpath⟩ := hf
    exact ⟨path, hd, hpath, rfl⟩
  | choice done pending =>
    obtain ⟨text, hd, hhead⟩ := hf
    cases pending with
    | none =>
      refine ⟨text, hd, Eq.trans ?_ hhead, rfl⟩
      rw [Option.toList_none, List.append_nil, List.head?_map]
    | some branch =>
      refine ⟨text, hd, Eq.trans ?_ hhead, rfl⟩
      cases done <;> rfl

end Frame

/-! ### The nodes of a tree in the making -/

namespace Node

theorem preorder_leaf (t : Token) : preorder t.leaf = [t.leaf] := by
  unfold Token.leaf
  split
  · rfl
  · rfl
  · split <;> rfl

theorem construct?_leaf (t : Token) : t.leaf.construct? = none := by
  unfold Token.leaf
  split
  · rfl
  · rfl
  · split <;> rfl

theorem preorderBranches_eq : (branches : List Branch) →
    preorderBranches branches = preorderAll (branches.flatMap Branch.body)
  | [] => rfl
  | .mk _ body _ :: branches => by
    rw [preorderBranches, preorderBranches_eq branches, List.flatMap_cons, preorderAll_append]
    rfl

theorem preorder_close (f : Frame) :
    preorder f.close = f.close :: preorderAll (Frame.doneNodes f.opening ++ f.nodes) := by
  obtain ⟨opening, source, location, nodes⟩ := f
  cases opening with
  | block name => rfl
  | loop item collection => rfl
  | choice done pending =>
    cases pending with
    | none =>
      rw [Frame.close, preorder, preorderBranches_eq, preorderAll_append]
      rfl
    | some branch =>
      rw [Frame.close, preorder, preorderBranches_eq, List.flatMap_append, Frame.doneNodes]
      simp [Branch.body, preorderOtherwise]

theorem preorderAll_unwind (f : Frame) :
    preorderAll f.unwind =
      .inert f.source f.location :: preorderAll (Frame.doneNodes f.opening ++ f.nodes) :=
  rfl

theorem construct?_close (f : Frame) : f.close.construct? = some f.part.construct := by
  obtain ⟨opening, source, location, nodes⟩ := f
  cases opening with
  | choice done pending => cases pending <;> rfl
  | _ => rfl

end Node

namespace Builder

variable {b : Builder} {t : Token}

/-- The nodes read so far, in preorder. -/
def walk (b : Builder) : List Node :=
  Node.preorderAll b.finish

theorem walk_read_of_kept (h : b.nesting.fate t = .kept) :
    (b.read t).walk = b.walk ++ [t.leaf] := by
  rw [walk, finish_read_of_kept h, Node.preorderAll_append, Node.preorderAll_cons,
    Node.preorder_leaf]
  rfl

theorem walk_read_of_switches (h : b.nesting.fate t = .switches) : (b.read t).walk = b.walk := by
  rw [walk, finish_read_of_switches h, walk]

/-- A closing tag turns the inert tag of the innermost part into the node of that part. -/
theorem walk_read_of_closes {c : Construct} (h : b.nesting.fate t = .closes c) :
    ∃ f ∈ b.frames, f.part.construct = c ∧ ∃ front back,
      b.walk = front ++ .inert f.source f.location :: back ∧
      (b.read t).walk = front ++ f.close :: back := by
  obtain ⟨f, frames, hframes, hpart, hread⟩ := read_of_closes h
  obtain ⟨root, _⟩ := b
  cases hframes
  refine ⟨f, List.mem_cons_self, hpart, Node.preorderAll (finish ⟨root, frames⟩),
    Node.preorderAll (Frame.doneNodes f.opening ++ f.nodes), ?_, ?_⟩
  · rw [walk, finish_cons, Node.preorderAll_append, Node.preorderAll_unwind]
  · rw [hread, walk, finish_push, Node.preorderAll_append, Node.preorderAll_cons,
      Node.preorder_close]
    simp

/-! ### Every token becomes a node -/

theorem isOpened_push {node : Node} (h : ∀ f ∈ b.frames, f.IsOpened) :
    ∀ f ∈ (b.push node).frames, f.IsOpened := by
  obtain ⟨root, frames⟩ := b
  cases frames with
  | nil => exact h
  | cons f frames =>
    obtain ⟨hf, hframes⟩ := List.forall_mem_cons.mp h
    exact List.forall_mem_cons.mpr ⟨hf, hframes⟩

theorem isOpened_read (h : ∀ f ∈ b.frames, f.IsOpened) (t : Token) :
    ∀ f ∈ (b.read t).frames, f.IsOpened := by
  cases hfate : b.nesting.fate t with
  | kept =>
    rw [read_of_kept hfate]
    cases ho : t.opening? with
    | none => exact isOpened_push h
    | some opening => exact List.forall_mem_cons.mpr ⟨Frame.isOpened_of_opening? ho, h⟩
  | closes c =>
    obtain ⟨f, frames, hframes, -, hread⟩ := read_of_closes hfate
    rw [hframes] at h
    rw [hread]
    exact isOpened_push (List.forall_mem_cons.mp h).2
  | switches =>
    obtain ⟨f, frames, next, f', hframes, hf', -, hread⟩ := read_of_switches hfate
    rw [hframes] at h
    obtain ⟨hf, hrest⟩ := List.forall_mem_cons.mp h
    rw [hread]
    exact List.forall_mem_cons.mpr ⟨Frame.isOpened_nextBranch? hf' hf, hrest⟩

theorem isOpened_foldl_read (h : ∀ f ∈ b.frames, f.IsOpened) (tokens : List Token) :
    ∀ f ∈ (tokens.foldl read b).frames, f.IsOpened := by
  induction tokens generalizing b with
  | nil => exact h
  | cons t tokens ih => exact ih (isOpened_read h t)

/-- A token that becomes the inert tag of a frame is the tag that opened the frame. -/
theorem eq_opener_of_becomes {f : Frame} (h : t.Becomes (.inert f.source f.location)) :
    t = f.opener := by
  obtain ⟨kind, value, place⟩ := t
  obtain ⟨opening, source, location, nodes⟩ := f
  rcases h with hleaf | hopened
  · cases kind with
    | text => cases hleaf
    | output => cases hleaf
    | tag =>
      simp only [Token.leaf] at hleaf
      split at hleaf
      · cases hleaf
      · cases hleaf
        rfl
  · exact hopened.elim

theorem forall₂_replace {tokens : List Token} {front back : List Node} {old new : Node}
    (h : List.Forall₂ Token.Becomes tokens (front ++ old :: back))
    (hnew : ∀ t : Token, t.Becomes old → t.Becomes new) :
    List.Forall₂ Token.Becomes tokens (front ++ new :: back) := by
  induction front generalizing tokens with
  | nil =>
    cases h with
    | cons ht htokens => exact .cons (hnew _ ht) htokens
  | cons node front ih =>
    cases h with
    | cons ht htokens => exact .cons ht (ih htokens)

/-- The tokens that stay become the nodes read so far, one by one. -/
theorem becomes_foldl_read (tokens : List Token) (b : Builder) (before : List Token)
    (hopened : ∀ f ∈ b.frames, f.IsOpened) (hbefore : List.Forall₂ Token.Becomes before b.walk) :
    List.Forall₂ Token.Becomes (before ++ b.nesting.kept tokens) (tokens.foldl read b).walk := by
  induction tokens generalizing b before with
  | nil => simpa [Nesting.kept, Nesting.fates] using hbefore
  | cons t tokens ih =>
    rw [Nesting.kept_cons, ← List.append_assoc, ← nesting_read, List.foldl_cons]
    refine ih (b.read t) _ (isOpened_read hopened t) ?_
    cases hfate : b.nesting.fate t with
    | kept =>
      rw [if_pos rfl, walk_read_of_kept hfate]
      exact List.rel_append hbefore (.cons (Or.inl rfl) .nil)
    | closes c =>
      obtain ⟨f, hf, -, front, back, hwalk, hread⟩ := walk_read_of_closes hfate
      rw [if_neg (by simp), List.append_nil, hread]
      rw [hwalk] at hbefore
      refine forall₂_replace hbefore fun u hu => Or.inr ?_
      rw [eq_opener_of_becomes hu]
      exact Frame.isOpenedBy_close (hopened f hf)
    | switches =>
      rw [if_neg (by simp), List.append_nil, walk_read_of_switches hfate]
      exact hbefore

/-- Every closing tag that closes a part makes one node of its construct. -/
theorem countP_foldl_read (tokens : List Token) (b : Builder) (c : Construct) :
    (tokens.foldl read b).walk.countP (·.construct? = some c) =
      b.walk.countP (·.construct? = some c) +
        ((b.nesting.fates tokens).map Prod.snd).count (.closes c) := by
  induction tokens generalizing b with
  | nil => simp [Nesting.fates]
  | cons t tokens ih =>
    rw [List.foldl_cons, ih, nesting_read, Nesting.fates, List.map_cons, List.count_cons]
    cases hfate : b.nesting.fate t with
    | kept =>
      simp [walk_read_of_kept hfate, Node.construct?_leaf]
    | closes d =>
      obtain ⟨f, hf, hpart, front, back, hwalk, hread⟩ := walk_read_of_closes hfate
      rw [hread, hwalk]
      simp only [List.countP_append, List.countP_cons, Node.construct?_close, hpart]
      simp [Node.construct?]
      omega
    | switches => simp [walk_read_of_switches hfate]

end Builder

namespace Template

/-- **No token is lost.** While tokens are read, the parts that are open follow the tags. Each token
has one fate: it stays, it closes the part that is innermost before it, or it begins a branch of
that part. The tokens that stay are, one by one and in their order, the nodes of the template in
preorder, and the tags that close a part are as many as the nodes of its construct. -/
theorem preorder_ofTokens (tokens : List Token) :
    let fates := Nesting.fates [] tokens
    let walk := Node.preorderAll (ofTokens tokens).nodes
    (tokens.foldl Builder.read .empty).nesting = tokens.foldl Nesting.next [] ∧
    fates.map Prod.fst = tokens ∧
    (∀ t fate, (t, fate) ∈ fates → fate = .kept ∨
      (∃ c, fate = .closes c ∧ t.directive? = some c.closing) ∨
      (fate = .switches ∧ t.BeginsBranch)) ∧
    (Nesting.kept [] tokens).Sublist tokens ∧
    List.Forall₂ Token.Becomes (Nesting.kept [] tokens) walk ∧
    ∀ c, (fates.map Prod.snd).count (.closes c) = walk.countP (·.construct? = some c) := by
  refine ⟨Builder.nesting_foldl_read tokens .empty, Nesting.map_fst_fates [] tokens,
    fun t fate => Nesting.fate_of_mem_fates, Nesting.kept_sublist [] tokens, ?_, fun c => ?_⟩
  · exact Builder.becomes_foldl_read tokens .empty [] (by simp [Builder.empty]) .nil
  · have hcount := Builder.countP_foldl_read tokens .empty c
    rw [show Builder.empty.walk = [] from rfl, List.countP_nil, Nat.zero_add] at hcount
    exact hcount.symm

end Template

end PageTemplate
