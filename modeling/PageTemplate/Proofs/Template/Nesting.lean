import PageTemplate.Template.Parse

/-!
# Open parts and their closing tags

Which closing tag ends which part, and which tags begin a branch of a choice, depends on the tags
alone. This file follows the parts that are open while tokens are read, without the tree, and shows
that the tree is built in step with them.

## Main definitions

* `PageTemplate.Nesting` — the parts that are open, innermost first.
* `PageTemplate.Nesting.fate` — what becomes of a token: it stays in the tree, closes the innermost
  part, or begins a branch of it.
* `PageTemplate.Nesting.fates` — the fates of tokens read one after the other.
* `PageTemplate.Builder.nesting` — the parts that are open in a tree.

## Main statements

* `PageTemplate.Builder.nesting_read` — the parts open in a tree after one more token.
* `PageTemplate.Builder.finish_read_of_kept`, `PageTemplate.Builder.finish_read_of_switches`,
  `PageTemplate.Builder.read_of_closes` — what a token does to a tree, fate by fate.
-/

namespace PageTemplate

/-- The directive of a tag; other tokens have none. -/
def Token.directive? (t : Token) : Option Directive :=
  if t.kind = .tag then some (Directive.classify t.content) else none

theorem Token.kind_of_directive? {t : Token} {d : Directive} (h : t.directive? = some d) :
    t.kind = .tag := by
  unfold directive? at h
  split at h
  · assumption
  · cases h

/-- The token is a tag for a further branch of a choice. -/
def Token.BeginsBranch (t : Token) : Prop :=
  (∃ condition, t.directive? = some (.nextBranch condition)) ∨ t.directive? = some .lastBranch

/-- The constructs that have a closing tag. -/
inductive Construct where
  | block
  | loop
  | choice
deriving DecidableEq

/-- The directive that closes a construct. -/
def Construct.closing : Construct → Directive
  | block => .closeBlock
  | loop => .closeLoop
  | choice => .closeChoice

/-- A part that is open. Of a choice it is known whether its last branch has begun. -/
inductive Part where
  | block
  | loop
  | choice (isLast : Bool)
deriving DecidableEq

/-- The construct that an open part will be. -/
def Part.construct : Part → Construct
  | block => .block
  | loop => .loop
  | choice _ => .choice

/-- What becomes of a token. -/
inductive Fate where
  | kept
  | closes (construct : Construct)
  | switches
deriving DecidableEq

/-- The parts that are open, innermost first. -/
abbrev Nesting := List Part

namespace Nesting

/-- What becomes of a token where the given parts are open: a closing tag closes the innermost part
if that part is of its construct, a tag for a branch begins one if the innermost part is a choice
that can have more, and all other tokens stay in the tree. -/
def fate (n : Nesting) (t : Token) : Fate :=
  match n, t.directive? with
  | .block :: _, some .closeBlock => .closes .block
  | .loop :: _, some .closeLoop => .closes .loop
  | .choice _ :: _, some .closeChoice => .closes .choice
  | .choice false :: _, some (.nextBranch _) => .switches
  | .choice false :: _, some .lastBranch => .switches
  | _, _ => .kept

/-- The parts that are open after a token. -/
def next (n : Nesting) (t : Token) : Nesting :=
  match n.fate t, t.directive? with
  | .closes _, _ => n.tail
  | .switches, some .lastBranch => .choice true :: n.tail
  | .switches, _ => n
  | .kept, some (.openBlock _) => .block :: n
  | .kept, some (.openLoop _ _) => .loop :: n
  | .kept, some (.openChoice _) => .choice false :: n
  | .kept, _ => n

/-- The tokens with their fates, in order. -/
def fates : Nesting → List Token → List (Token × Fate)
  | _, [] => []
  | n, t :: tokens => (t, n.fate t) :: fates (n.next t) tokens

variable {n : Nesting} {t : Token}

theorem map_fst_fates : (n : Nesting) → (tokens : List Token) →
    (fates n tokens).map Prod.fst = tokens
  | _, [] => rfl
  | n, t :: tokens => by rw [fates, List.map_cons, map_fst_fates (n.next t) tokens]

theorem fate_eq_closes_iff {c : Construct} :
    n.fate t = .closes c ↔ t.directive? = some c.closing ∧ n.head?.map Part.construct = some c := by
  constructor
  · intro h
    unfold fate at h
    split at h <;> cases h
    all_goals exact ⟨by assumption, rfl⟩
  · rintro ⟨hd, hhead⟩
    obtain ⟨part, hpart, rfl⟩ := Option.map_eq_some_iff.mp hhead
    obtain ⟨n, rfl⟩ := List.head?_eq_some_iff.mp hpart
    unfold fate
    rw [hd]
    cases part with
    | choice isLast => cases isLast <;> rfl
    | _ => rfl

theorem fate_eq_switches_iff :
    n.fate t = .switches ↔ t.BeginsBranch ∧ n.head? = some (.choice false) := by
  constructor
  · intro h
    unfold fate at h
    split at h <;> cases h
    · next condition hd => exact ⟨Or.inl ⟨condition, hd⟩, rfl⟩
    · next hd => exact ⟨Or.inr hd, rfl⟩
  · rintro ⟨hd, hhead⟩
    obtain ⟨n, rfl⟩ := List.head?_eq_some_iff.mp hhead
    unfold fate
    rcases hd with ⟨condition, hd⟩ | hd <;> rw [hd]

/-- Only the innermost part decides what becomes of a token. -/
theorem fate_congr {m : Nesting} (h : n.head? = m.head?) : n.fate t = m.fate t := by
  cases hm : m.fate t with
  | closes c => rwa [fate_eq_closes_iff, h, ← fate_eq_closes_iff]
  | switches => rwa [fate_eq_switches_iff, h, ← fate_eq_switches_iff]
  | kept =>
    cases hn : n.fate t with
    | kept => rfl
    | closes c =>
      rw [fate_eq_closes_iff, h, ← fate_eq_closes_iff, hm] at hn
      cases hn
    | switches =>
      rw [fate_eq_switches_iff, h, ← fate_eq_switches_iff, hm] at hn
      cases hn

theorem fate_of_mem_fates {tokens : List Token} {fate : Fate} (h : (t, fate) ∈ fates n tokens) :
    fate = .kept ∨ (∃ c, fate = .closes c ∧ t.directive? = some c.closing) ∨
      (fate = .switches ∧ t.BeginsBranch) := by
  induction tokens generalizing n with
  | nil => simp [fates] at h
  | cons u tokens ih =>
    rcases List.mem_cons.mp h with heq | h
    · obtain ⟨rfl, hfate⟩ := Prod.mk.inj heq
      cases fate with
      | kept => exact Or.inl rfl
      | closes c => exact Or.inr (Or.inl ⟨c, rfl, (fate_eq_closes_iff.mp hfate.symm).1⟩)
      | switches => exact Or.inr (Or.inr ⟨rfl, (fate_eq_switches_iff.mp hfate.symm).1⟩)
    · exact ih h

end Nesting

/-- The part that a frame stands for. -/
def Frame.part (f : Frame) : Part :=
  match f.opening with
  | .block _ => .block
  | .loop _ _ => .loop
  | .choice _ pending => .choice pending.isNone

/-- The node of a token that is in the tree for itself. -/
def Token.leaf (t : Token) : Node :=
  match t.kind with
  | .text => .text t.value t.location
  | .output => .output t.value (Expression.parse? t.content t.location) t.location
  | .tag =>
    match Directive.classify t.content with
    | .inherit parent => .inherit parent t.location
    | _ => .inert t.value t.location

/-- The openings that a closing tag of a construct fits. -/
def Construct.fits : Construct → Frame.Opening → Bool
  | block => Frame.Opening.isBlock
  | loop => Frame.Opening.isLoop
  | choice => Frame.Opening.isChoice

theorem Frame.fits_iff (f : Frame) (c : Construct) :
    c.fits f.opening = true ↔ f.part.construct = c := by
  obtain ⟨opening, source, location, nodes⟩ := f
  cases c <;> cases opening <;> simp [Construct.fits, Frame.part, Part.construct,
    Frame.Opening.isBlock, Frame.Opening.isLoop, Frame.Opening.isChoice]

theorem Frame.nextBranch?_isSome_iff (f : Frame) (next : Option (Condition × Location)) :
    (f.nextBranch? next).isSome = true ↔ f.part = .choice false := by
  obtain ⟨opening, source, location, nodes⟩ := f
  cases opening with
  | choice done pending => cases pending <;> simp [Frame.nextBranch?, Frame.part]
  | _ => simp [Frame.nextBranch?, Frame.part]

/-- What a tag opens, with the place of the tag; other tokens open nothing. -/
def Token.opening? (t : Token) : Option Frame.Opening :=
  match t.directive? with
  | some (.openBlock name) => some (.block name)
  | some (.openLoop item collection) => some (.loop item (Path.lenient collection t.location))
  | some (.openChoice condition) =>
    some (.choice [] (some (Condition.parse condition t.location, t.location)))
  | _ => none

/-- The branch that a tag begins: its condition, which the last branch lacks, with the place of the
tag. Other tokens begin none. -/
def Token.branch? (t : Token) : Option (Option (Condition × Location)) :=
  match t.directive? with
  | some (.nextBranch condition) => some (some (Condition.parse condition t.location, t.location))
  | some .lastBranch => some none
  | _ => none

namespace Builder

variable {b : Builder} {t : Token}

/-- The parts that are open in the tree. -/
def nesting (b : Builder) : Nesting :=
  b.frames.map Frame.part

/-! ### The nodes read so far

The nodes that there would be at the end of the tokens serve as the content of a tree in the
making: most tokens add to them at their end. -/

theorem finish_cons (root : List Node) (f : Frame) (frames : List Frame) :
    finish ⟨root, f :: frames⟩ = finish ⟨root, frames⟩ ++ f.unwind := by
  simp [finish]

theorem finish_push (b : Builder) (node : Node) : (b.push node).finish = b.finish ++ [node] := by
  obtain ⟨root, frames⟩ := b
  cases frames with
  | nil => simp [push, finish]
  | cons f frames =>
    rw [push, finish_cons, finish_cons, List.append_assoc]
    simp [Frame.push, Frame.unwind]

theorem nesting_push (b : Builder) (node : Node) : (b.push node).nesting = b.nesting := by
  obtain ⟨root, frames⟩ := b
  cases frames <;> rfl

theorem finish_openFrame (b : Builder) (opening : Frame.Opening) (t : Token)
    (h : Frame.doneNodes opening = []) :
    (b.openFrame opening t).finish = b.finish ++ [.inert t.value t.location] := by
  rw [openFrame, finish_cons, Frame.unwind, h]
  rfl

theorem finish_nextBranch {f f' : Frame} {frames : List Frame}
    {next : Option (Condition × Location)} (root : List Node) (h : f.nextBranch? next = some f') :
    finish ⟨root, f' :: frames⟩ = finish ⟨root, f :: frames⟩ := by
  obtain ⟨opening, source, location, nodes⟩ := f
  simp only [Frame.nextBranch?] at h
  split at h
  · cases h
    simp [finish_cons, Frame.unwind, Frame.doneNodes, Branch.body]
  · cases h

/-! ### One token -/

theorem nextBranch_eq_pushInert {next : Option (Condition × Location)}
    (h : b.nesting.head? ≠ some (.choice false)) : b.nextBranch next t = b.pushInert t := by
  obtain ⟨root, frames⟩ := b
  cases frames with
  | nil => rfl
  | cons f frames =>
    have hf : f.part ≠ .choice false := fun hf => h (congrArg some hf)
    have hnone : f.nextBranch? next = none := by
      rw [← Option.not_isSome_iff_eq_none, Frame.nextBranch?_isSome_iff]
      exact hf
    simp only [nextBranch, hnone]

theorem closeFrame_eq_pushInert {c : Construct}
    (h : b.nesting.head?.map Part.construct ≠ some c) :
    b.closeFrame c.fits t = b.pushInert t := by
  obtain ⟨root, frames⟩ := b
  cases frames with
  | nil => rfl
  | cons f frames =>
    have hf : ¬c.fits f.opening = true := fun hf => h (congrArg some ((f.fits_iff c).mp hf))
    simp only [closeFrame, if_neg hf]

theorem read_of_directive? {d : Directive} (h : t.directive? = some d) :
    Directive.classify t.content = d ∧ b.read t = b.readTag t := by
  unfold Token.directive? at h
  split at h
  · next hkind => exact ⟨Option.some.inj h, by rw [read, hkind]⟩
  · cases h

theorem read_of_opening? {opening : Frame.Opening} (h : t.opening? = some opening) :
    b.read t = b.openFrame opening t := by
  unfold Token.opening? at h
  split at h <;> cases h
  all_goals
    next hd =>
      obtain ⟨hclassify, hread⟩ := read_of_directive? (b := b) hd
      rw [hread, readTag, hclassify]

/-- A token that stays in the tree opens a part or adds its node. -/
theorem read_of_kept (h : b.nesting.fate t = .kept) :
    b.read t = match t.opening? with
      | some opening => b.openFrame opening t
      | none => b.push t.leaf := by
  cases hkind : t.kind with
  | text =>
    simp only [read, Token.opening?, Token.directive?, Token.leaf, hkind, reduceCtorEq, if_false]
  | output =>
    simp only [read, Token.opening?, Token.directive?, Token.leaf, hkind, reduceCtorEq, if_false]
  | tag =>
    have hdirective : t.directive? = some (Directive.classify t.content) := by
      rw [Token.directive?, if_pos hkind]
    have hclose {c : Construct} (hc : t.directive? = some c.closing) :
        b.closeFrame c.fits t = b.pushInert t := by
      refine closeFrame_eq_pushInert fun hhead => ?_
      cases h.symm.trans (Nesting.fate_eq_closes_iff.mpr ⟨hc, hhead⟩)
    have hnext {next : Option (Condition × Location)} (hd : t.BeginsBranch) :
        b.nextBranch next t = b.pushInert t := by
      refine nextBranch_eq_pushInert fun hhead => ?_
      cases h.symm.trans (Nesting.fate_eq_switches_iff.mpr ⟨hd, hhead⟩)
    simp only [read, hkind, readTag, Token.opening?, Token.leaf]
    cases hd : Directive.classify t.content <;> rw [hd] at hdirective <;> simp only [hdirective]
    case nextBranch condition => exact hnext (Or.inl ⟨condition, hdirective⟩)
    case lastBranch => exact hnext (Or.inr hdirective)
    case closeBlock => exact hclose (c := .block) hdirective
    case closeLoop => exact hclose (c := .loop) hdirective
    case closeChoice => exact hclose (c := .choice) hdirective
    case unsupported => rfl

theorem read_branching {f f' : Frame} {next : Option (Condition × Location)} (root : List Node)
    (frames : List Frame) (h : t.branch? = some next) (hf : f.nextBranch? next = some f') :
    read ⟨root, f :: frames⟩ t = ⟨root, f' :: frames⟩ := by
  unfold Token.branch? at h
  split at h <;> cases h
  all_goals
    next hd =>
      obtain ⟨hclassify, hread⟩ := read_of_directive? (b := ⟨root, f :: frames⟩) hd
      simp only [hread, readTag, hclassify, nextBranch, hf]

/-- A tag that begins a branch changes the innermost part only. -/
theorem read_of_switches (h : b.nesting.fate t = .switches) :
    ∃ f frames next f', b.frames = f :: frames ∧ f.nextBranch? next = some f' ∧
      t.branch? = some next ∧ b.read t = ⟨b.root, f' :: frames⟩ := by
  obtain ⟨hdirective, hhead⟩ := Nesting.fate_eq_switches_iff.mp h
  obtain ⟨root, frames⟩ := b
  cases frames with
  | nil => cases hhead
  | cons f frames =>
    obtain ⟨next, hbranch⟩ : ∃ next, t.branch? = some next := by
      rcases hdirective with ⟨condition, hd⟩ | hd <;> exact ⟨_, by rw [Token.branch?, hd]⟩
    obtain ⟨f', hf'⟩ := Option.isSome_iff_exists.mp
      ((f.nextBranch?_isSome_iff next).mpr (Option.some.inj hhead))
    exact ⟨f, frames, next, f', rfl, hf', hbranch, read_branching root frames hbranch hf'⟩

theorem read_closing {c : Construct} {f : Frame} (root : List Node) (frames : List Frame)
    (h : t.directive? = some c.closing) (hf : c.fits f.opening = true) :
    read ⟨root, f :: frames⟩ t = push ⟨root, frames⟩ f.close := by
  obtain ⟨hclassify, hread⟩ := read_of_directive? (b := ⟨root, f :: frames⟩) h
  have hclose : readTag ⟨root, f :: frames⟩ t = closeFrame ⟨root, f :: frames⟩ c.fits t := by
    rw [readTag, hclassify]
    cases c <;> rfl
  rw [hread, hclose]
  exact if_pos hf

/-- A tag that closes the innermost part makes it a node of the part around it. -/
theorem read_of_closes {c : Construct} (h : b.nesting.fate t = .closes c) :
    ∃ f frames, b.frames = f :: frames ∧ f.part.construct = c ∧
      b.read t = push ⟨b.root, frames⟩ f.close := by
  obtain ⟨hdirective, hhead⟩ := Nesting.fate_eq_closes_iff.mp h
  obtain ⟨root, frames⟩ := b
  cases frames with
  | nil => cases hhead
  | cons f frames =>
    have hf : f.part.construct = c := Option.some.inj hhead
    exact ⟨f, frames, rfl, hf, read_closing root frames hdirective ((f.fits_iff c).mpr hf)⟩

theorem part_of_nextBranch? {f f' : Frame} {next : Option (Condition × Location)}
    (h : f.nextBranch? next = some f') :
    f.part = .choice false ∧ f'.part = .choice next.isNone := by
  obtain ⟨opening, source, location, nodes⟩ := f
  simp only [Frame.nextBranch?] at h
  split at h
  · cases h
    exact ⟨rfl, rfl⟩
  · cases h

/-- The parts that are open in the tree follow the tags. -/
theorem nesting_read (b : Builder) (t : Token) : (b.read t).nesting = b.nesting.next t := by
  cases h : b.nesting.fate t with
  | kept =>
    rw [read_of_kept h, Nesting.next, h, Token.opening?]
    cases hd : t.directive? with
    | none => exact nesting_push b _
    | some d =>
      cases d with
      | openBlock name => rfl
      | openLoop item collection => rfl
      | openChoice condition => rfl
      | _ => exact nesting_push b _
  | closes c =>
    obtain ⟨f, frames, hframes, -, hread⟩ := read_of_closes h
    rw [hread, nesting_push, Nesting.next, h, nesting, nesting, hframes]
    rfl
  | switches =>
    obtain ⟨f, frames, next, f', hframes, hf', hbranch, hread⟩ := read_of_switches h
    obtain ⟨hpart, hpart'⟩ := part_of_nextBranch? hf'
    have hn : b.nesting = .choice false :: frames.map Frame.part := by
      rw [nesting, hframes, List.map_cons, hpart]
    rw [hread, nesting, List.map_cons, hpart', Nesting.next, h, hn]
    rcases (Nesting.fate_eq_switches_iff.mp h).1 with ⟨condition, hd⟩ | hd
    all_goals
      rw [Token.branch?, hd] at hbranch
      rw [hd, ← Option.some.inj hbranch]
      rfl

theorem nesting_foldl_read (tokens : List Token) (b : Builder) :
    (tokens.foldl read b).nesting = tokens.foldl Nesting.next b.nesting := by
  induction tokens generalizing b with
  | nil => rfl
  | cons t tokens ih => rw [List.foldl_cons, List.foldl_cons, ih, nesting_read]

/-! ### The nodes after one token -/

theorem leaf_of_opening? {opening : Frame.Opening} (h : t.opening? = some opening) :
    t.leaf = .inert t.value t.location ∧ Frame.doneNodes opening = [] := by
  unfold Token.opening? at h
  split at h <;> cases h
  all_goals
    next hd =>
      unfold Token.directive? at hd
      split at hd
      · next hkind => exact ⟨by rw [Token.leaf, hkind]; simp only [Option.some.inj hd], rfl⟩
      · cases hd

theorem finish_read_of_kept (h : b.nesting.fate t = .kept) :
    (b.read t).finish = b.finish ++ [t.leaf] := by
  rw [read_of_kept h]
  cases ho : t.opening? with
  | none => exact finish_push b _
  | some opening =>
    obtain ⟨hleaf, hdone⟩ := leaf_of_opening? ho
    rw [hleaf]
    exact finish_openFrame b opening t hdone

theorem finish_read_of_switches (h : b.nesting.fate t = .switches) :
    (b.read t).finish = b.finish := by
  obtain ⟨f, frames, next, f', hframes, hf', -, hread⟩ := read_of_switches h
  obtain ⟨root, _⟩ := b
  cases hframes
  rw [hread, finish_nextBranch root hf']

end Builder

end PageTemplate
