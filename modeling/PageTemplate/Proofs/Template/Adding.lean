import PageTemplate.Proofs.Template.Nesting

/-!
# What tokens add

Tokens that come after others go on from the parts that those left open. As long as no tag among
them closes one of these parts or begins a branch of it, they are read as if nothing had come
before, and what they make stands in the innermost of these parts.

## Main definitions

* `PageTemplate.Builder.Adds` — the tokens add nodes to any tree that is read so far.
* `PageTemplate.Builder.onto` — a tree read so far, placed in the innermost open part of another.

## Main statements

* `PageTemplate.Builder.finish_eq_finish_foldl_push` — the parts that are open at the end are given
  up one after the other.
* `PageTemplate.Builder.read_onto`, `PageTemplate.Builder.foldl_read_onto` — one token, and any
  number of them, read in a tree that is placed in another.
* `PageTemplate.Builder.onto_eq_foldl_push` — a tree without open parts adds its nodes.
-/

namespace PageTemplate

/-- Parts around the open parts decide only if none of these is left. -/
theorem Nesting.fate_append {n outer : Nesting} {t : Token} (h : n = [] → outer.fate t = .kept) :
    (n ++ outer).fate t = n.fate t := by
  cases n with
  | nil => exact h rfl
  | cons part n => exact fate_congr rfl

namespace Builder

variable {b outer : Builder} {t : Token} {tokens front back : List Token}
  {nodes frontNodes backNodes : List Node}

/-- Whatever was read before, the tokens add the nodes to it. -/
def Adds (tokens : List Token) (nodes : List Node) : Prop :=
  ∀ b : Builder, tokens.foldl read b = nodes.foldl push b

theorem adds_nil : Adds [] [] := fun _ => rfl

theorem Adds.append (hfront : Adds front frontNodes) (hback : Adds back backNodes) :
    Adds (front ++ back) (frontNodes ++ backNodes) := by
  intro b
  rw [List.foldl_append, List.foldl_append, hfront, hback]

/-! ### Nodes one after the other -/

theorem foldl_push_frame (root : List Node) (f : Frame) (frames : List Frame) (nodes : List Node) :
    nodes.foldl push ⟨root, f :: frames⟩ =
      ⟨root, { f with nodes := f.nodes ++ nodes } :: frames⟩ := by
  induction nodes generalizing f with
  | nil => simp
  | cons node nodes ih =>
    rw [List.foldl_cons, push, ih]
    simp [Frame.push]

theorem foldl_push_root (root nodes : List Node) :
    nodes.foldl push ⟨root, []⟩ = ⟨root ++ nodes, []⟩ := by
  induction nodes generalizing root with
  | nil => simp
  | cons node nodes ih =>
    rw [List.foldl_cons, push, ih]
    simp

theorem finish_foldl_push (nodes : List Node) (b : Builder) :
    (nodes.foldl push b).finish = b.finish ++ nodes := by
  induction nodes generalizing b with
  | nil => simp
  | cons node nodes ih => rw [List.foldl_cons, ih, finish_push, List.append_assoc]; rfl

/-- **One open part is given up after the other.** The innermost one goes first: its nodes are pushed
onto the part around it, and the end of the tokens is as if they had been read there. -/
theorem finish_eq_finish_foldl_push (root : List Node) (f : Frame) (frames : List Frame) :
    finish ⟨root, f :: frames⟩ = (f.unwind.foldl push ⟨root, frames⟩).finish := by
  rw [finish_cons, finish_foldl_push]

theorem nesting_foldl_push (nodes : List Node) (b : Builder) :
    (nodes.foldl push b).nesting = b.nesting := by
  induction nodes generalizing b with
  | nil => rfl
  | cons node nodes ih => rw [List.foldl_cons, ih, nesting_push]

/-! ### A tree in an open part of another -/

/-- The tree `b` in the innermost open part of the tree `outer`: its nodes are put there, and its
own open parts are open within that part. -/
def onto (b outer : Builder) : Builder :=
  ⟨(b.root.foldl push outer).root, b.frames ++ (b.root.foldl push outer).frames⟩

theorem empty_onto (outer : Builder) : empty.onto outer = outer := rfl

/-- A tree without open parts adds its nodes. -/
theorem onto_eq_foldl_push (h : b.frames = []) : b.onto outer = b.finish.foldl push outer := by
  obtain ⟨root, frames⟩ := b
  cases h
  simp [onto, finish]

theorem nesting_onto (b outer : Builder) : (b.onto outer).nesting = b.nesting ++ outer.nesting := by
  rw [← nesting_foldl_push b.root outer]
  exact List.map_append

theorem push_onto (b outer : Builder) (node : Node) :
    (b.onto outer).push node = (b.push node).onto outer := by
  obtain ⟨root, frames⟩ := b
  cases frames with
  | nil =>
    simp only [push, onto, List.foldl_append, List.foldl_cons, List.foldl_nil, List.nil_append]
  | cons f frames => rfl

/-- One token is read in a tree as it is read in the tree within another, unless the tree has no
open parts and the token closes the innermost part of the other or begins a branch of it. -/
theorem read_onto (h : b.frames = [] → outer.nesting.fate t = .kept) :
    (b.onto outer).read t = (b.read t).onto outer := by
  have hfate : (b.onto outer).nesting.fate t = b.nesting.fate t := by
    rw [nesting_onto]
    exact Nesting.fate_append fun hnil => h (List.map_eq_nil_iff.mp hnil)
  cases hb : b.nesting.fate t with
  | kept =>
    rw [read_of_kept hb, read_of_kept (hfate.trans hb)]
    cases t.opening? with
    | none => exact push_onto b outer _
    | some opening => rfl
  | closes c =>
    obtain ⟨f, frames, hframes, hpart, hread⟩ := read_of_closes hb
    rw [hread, ← push_onto, onto, hframes, List.cons_append]
    exact read_closing _ _ (Nesting.fate_eq_closes_iff.mp hb).1 ((f.fits_iff c).mpr hpart)
  | switches =>
    obtain ⟨f, frames, next, f', hframes, hf', hbranch, hread⟩ := read_of_switches hb
    rw [hread, onto, hframes, List.cons_append]
    exact read_branching _ _ hbranch hf'

theorem foldl_read_onto
    (h : ∀ front t back, tokens = front ++ t :: back → (front.foldl read b).frames = [] →
      outer.nesting.fate t = .kept) :
    tokens.foldl read (b.onto outer) = (tokens.foldl read b).onto outer := by
  induction tokens generalizing b with
  | nil => rfl
  | cons t tokens ih =>
    have hread : (b.onto outer).read t = (b.read t).onto outer := read_onto (h [] t tokens rfl)
    rw [List.foldl_cons, List.foldl_cons, hread]
    exact ih fun front u back heq => h (t :: front) u back (by rw [heq]; rfl)

end Builder

end PageTemplate
