import Mathlib.Data.List.Forall2
import PageTemplate.Proofs.Node.Preorder
import PageTemplate.Proofs.Render.Restored

/-!
# Values that pages cannot tell apart

Two runs over the same nodes are compared. In one scope names mean values that are like the values
they mean in the other, for a relation that is kept by fields and by items of arrays and that texts
and conditions do not notice. Then the nodes have the same text in both scopes. Where filters see
more of a value than its text, the filters of the nodes must not notice the relation either.

Equality is such a relation, so a scope counts only through what the names of the nodes mean in it.

## Main definitions

* `PageTemplate.Value.IsLikeness` — a relation of values that pages cannot tell apart.
* `PageTemplate.Chain.Respects` — filters that make the same text of like values.
* `PageTemplate.Scope.Alike` — scopes in which certain names mean like values.
* `PageTemplate.Node.Respects` — a node that looks up certain names only, with such filters.

## Main statements

* `PageTemplate.Condition.test_eq`, `PageTemplate.Render.expressionText_eq` — conditions and outputs
  on like values, whatever the paths that lead to them.
* `PageTemplate.Node.renderAll_alike` — nodes have the same text in scopes that are alike.
-/

namespace PageTemplate

/-! ### Related optional values and lists -/

section Related

variable {α β γ δ : Type} {R : α → β → Prop} {S : γ → δ → Prop} {a : Option α} {b : Option β}

theorem optionRel_refl {R : α → α → Prop} (hR : ∀ x, R x x) (a : Option α) : Option.Rel R a a := by
  cases a with
  | none => exact .none
  | some x => exact .some (hR x)

theorem optionRel_or {a' : Option α} {b' : Option β} (h : Option.Rel R a b)
    (h' : Option.Rel R a' b') : Option.Rel R (a.or a') (b.or b') := by
  cases h with
  | none => exact h'
  | some hxy => exact .some hxy

theorem optionRel_bind (h : Option.Rel R a b) {f : α → Option γ} {g : β → Option δ}
    (hfg : ∀ x y, R x y → Option.Rel S (f x) (g y)) : Option.Rel S (a.bind f) (b.bind g) := by
  cases h with
  | none => exact .none
  | some hxy => exact hfg _ _ hxy

theorem map_eq_of_optionRel (h : Option.Rel R a b) {f : α → γ} {g : β → γ}
    (hfg : ∀ x y, R x y → f x = g y) : a.map f = b.map g := by
  cases h with
  | none => rfl
  | some hxy => exact congrArg some (hfg _ _ hxy)

theorem flatMap_eq_of_forall₂ {as : List α} {bs : List β} (h : List.Forall₂ R as bs)
    {f : α → List γ} {g : β → List γ} (hfg : ∀ x y, R x y → f x = g y) :
    as.flatMap f = bs.flatMap g := by
  induction h with
  | nil => rfl
  | cons hxy _ ih => rw [List.flatMap_cons, List.flatMap_cons, hfg _ _ hxy, ih]

end Related

/-! ### Like values -/

/-- Related values have the same text and the same truth, are containers together, and hold related
values in the same fields and in the same items. -/
structure Value.IsLikeness (R : Value → Value → Prop) : Prop where
  text_eq : ∀ v w, R v w → v.text = w.text
  isTruthy_eq : ∀ v w, R v w → v.isTruthy = w.isTruthy
  isContainer_eq : ∀ v w, R v w → v.isContainer = w.isContainer
  field?_rel : ∀ v w, R v w → ∀ key, Option.Rel R (v.field? key) (w.field? key)
  itemsOf_rel : ∀ v w, R v w →
    List.Forall₂ R (Render.itemsOf (some v)) (Render.itemsOf (some w))

/-- Nothing tells a value from itself. -/
theorem Value.isLikeness_eq : IsLikeness Eq where
  text_eq _ _ := congrArg text
  isTruthy_eq _ _ := congrArg isTruthy
  isContainer_eq _ _ := congrArg isContainer
  field?_rel v _ h key := h ▸ optionRel_refl Eq.refl (v.field? key)
  itemsOf_rel v _ h := h ▸ List.forall₂_refl (Render.itemsOf (some v))

/-- The filters make the same text of related values. -/
def Chain.Respects (R : Value → Value → Prop) (chain : Chain) : Prop :=
  ∀ v w, R v w → chain.apply (some v) = chain.apply (some w)

theorem Chain.respects_eq (chain : Chain) : chain.Respects Eq :=
  fun _ _ h => congrArg (fun v => chain.apply (some v)) h

/-- What a condition says of the value of its path. -/
def Condition.test : Condition → Option Value → Bool
  | equals _ literal, value => (value.map Value.text).getD [] == literal
  | truthy _, value => (value.map Value.isTruthy).getD false

theorem Condition.holds_eq_test (c : Condition) (s : Scope) :
    c.holds s = c.test (s.resolve? c.path.segments) := by
  cases c <;> rfl

section Likeness

variable {R : Value → Value → Prop} (hR : Value.IsLikeness R)

include hR

theorem Value.foldlM_field?_rel (fields : List Text) : ∀ v w, R v w →
    Option.Rel R (fields.foldlM Value.field? v) (fields.foldlM Value.field? w) := by
  induction fields with
  | nil => exact fun v w h => .some h
  | cons key fields ih =>
    intro v w h
    rw [List.foldlM_cons, List.foldlM_cons]
    exact optionRel_bind (hR.field?_rel v w h key) ih

/-- Two names that mean like values lead to like values on all further segments. -/
theorem Scope.resolve?_rel {s s' : Scope} {name name' : Text}
    (h : Option.Rel R (s.lookup? name) (s'.lookup? name')) (fields : List Text) :
    Option.Rel R (s.resolve? (name :: fields)) (s'.resolve? (name' :: fields)) :=
  optionRel_bind h (Value.foldlM_field?_rel hR fields)

theorem Condition.test_eq (c : Condition) {a b : Option Value} (h : Option.Rel R a b) :
    c.test a = c.test b := by
  cases c with
  | equals path literal => rw [test, test, map_eq_of_optionRel h hR.text_eq]
  | truthy path => rw [test, test, map_eq_of_optionRel h hR.isTruthy_eq]

theorem Render.itemsOf_rel {a b : Option Value} (h : Option.Rel R a b) :
    List.Forall₂ R (itemsOf a) (itemsOf b) := by
  cases h with
  | none => exact .nil
  | some hvw => exact hR.itemsOf_rel _ _ hvw

/-- Outputs with the same filters have the same text if their paths lead to like values, are dotted
together, and begin with the name of a loop together. -/
theorem Render.expressionText_eq {s s' : Scope} {e e' : Expression}
    (hfilters : e.filters = e'.filters) (hchain : (Chain.ofFilters e.filters).Respects R)
    (hdotted : e.path.isDotted = e'.path.isDotted)
    (hloop : e.path.isDotted = true → s.isLoopName e.path.head = s'.isLoopName e'.path.head)
    (hvalue : Option.Rel R (outputValue? s e.path) (outputValue? s' e'.path)) (source : Text) :
    expressionText s source e = expressionText s' source e' := by
  have hbound : (e.path.isDotted && s.isLoopName e.path.head) =
      (e'.path.isDotted && s'.isLoopName e'.path.head) := by
    cases h : e.path.isDotted with
    | false => rw [← hdotted, h, Bool.false_and, Bool.false_and]
    | true => rw [← hdotted, h, hloop h]
  have hplain : e.isPlain = e'.isPlain := by rw [Expression.isPlain, Expression.isPlain, hfilters]
  rw [expressionText, expressionText, hbound, ← hfilters]
  generalize outputValue? s e.path = a, outputValue? s' e'.path = b at hvalue
  cases hvalue with
  | none => rw [hdotted]
  | some hvw =>
    dsimp only
    rw [hchain _ _ hvw, hR.isContainer_eq _ _ hvw, hplain]

end Likeness

/-! ### Scopes that are alike -/

namespace Scope

/-- Names with the property `P` mean related values where loop items count, and so do names with the
property `Q` where loop items are left out; and the same names with the property `P` are names of
loops. -/
structure Alike (R : Value → Value → Prop) (P Q : Text → Prop) (s s' : Scope) : Prop where
  lookup : ∀ name, P name → Option.Rel R (s.lookup? name) (s'.lookup? name)
  isLoopName : ∀ name, P name → s.isLoopName name = s'.isLoopName name
  topLevel : ∀ name, Q name → Option.Rel R (s.topLevel? name) (s'.topLevel? name)

theorem isLoopName_push (s : Scope) (name : Text) (item : Value) (other : Text) :
    (s.push name item).isLoopName other = (name == other || s.isLoopName other) :=
  rfl

namespace Alike

variable {R : Value → Value → Prop} {P Q : Text → Prop} {s s' : Scope}

theorem push (h : s.Alike R P Q s') (name : Text) {item item' : Value} (hitem : R item item') :
    (s.push name item).Alike R P Q (s'.push name item') where
  lookup other hother := by
    rw [lookup?_push, lookup?_push]
    split
    · exact .some hitem
    · exact h.lookup other hother
  isLoopName other hother := by
    rw [isLoopName_push, isLoopName_push, h.isLoopName other hother]
  topLevel := h.topLevel

theorem resolve?_rel (hR : Value.IsLikeness R) (h : s.Alike R P Q s') {path : Path}
    (hpath : P path.head) :
    Option.Rel R (s.resolve? path.segments) (s'.resolve? path.segments) := by
  obtain ⟨segments, location⟩ := path
  cases segments with
  | nil => exact .none
  | cons name fields => exact Scope.resolve?_rel hR (h.lookup name hpath) fields

theorem holds_eq (hR : Value.IsLikeness R) (h : s.Alike R P Q s') {c : Condition}
    (hc : P c.path.head) : c.holds s = c.holds s' := by
  rw [c.holds_eq_test, c.holds_eq_test, c.test_eq hR (h.resolve?_rel hR hc)]

end Alike

end Scope

/-! ### Nodes in scopes that are alike -/

/-- An output whose filters respect the relation, and whose path begins with a name with the
property `P` if it has a dot, with the property `Q` if it has none. -/
def Expression.Respects (R : Value → Value → Prop) (P Q : Text → Prop) (e : Expression) : Prop :=
  (Chain.ofFilters e.filters).Respects R ∧
    (e.path.isDotted = true → P e.path.head) ∧ (e.path.isDotted = false → Q e.path.head)

theorem Scope.Alike.expressionText_eq {R : Value → Value → Prop} (hR : Value.IsLikeness R)
    {P Q : Text → Prop} {s s' : Scope} (h : s.Alike R P Q s') {e : Expression}
    (he : e.Respects R P Q) (source : Text) :
    Render.expressionText s source e = Render.expressionText s' source e := by
  obtain ⟨hchain, hdotted, hbare⟩ := he
  refine Render.expressionText_eq hR rfl hchain rfl
    (fun hd => h.isLoopName _ (hdotted hd)) ?_ source
  simp only [Render.outputValue?]
  split
  · next hd => exact h.resolve?_rel hR (hdotted hd)
  · next hd => exact h.topLevel _ (hbare (eq_false_of_ne_true hd))

namespace Node

/-- What the node itself looks up begins with names of the properties `P` and `Q`, and its filters
respect the relation. -/
def Respects (R : Value → Value → Prop) (P Q : Text → Prop) : Node → Prop
  | output _ (some e) _ => e.Respects R P Q
  | loop _ collection _ _ => P collection.head
  | choice branches _ _ => ∀ branch ∈ branches, P branch.condition.path.head
  | _ => True

variable {R : Value → Value → Prop} {P Q : Text → Prop}

mutual

theorem render_alike (hR : Value.IsLikeness R) : (node : Node) →
    (∀ n ∈ preorder node, n.Respects R P Q) →
    {s s' : Scope} → s.Alike R P Q s' → (render node s).1 = (render node s').1
  | text _ _, _, _, _, _ => rfl
  | output _ none _, _, _, _, _ => rfl
  | output source (some e) location, h, _, _, hs =>
    hs.expressionText_eq hR (h (output source (some e) location) (by simp [preorder])) source
  | inherit _ _, _, _, _, _ => rfl
  | block _ body _, h, _, _, hs => renderAll_alike hR body (List.forall_mem_cons.mp h).2 hs
  | loop item collection body location, h, s, s', hs => by
    obtain ⟨hcollection, hbody⟩ := List.forall_mem_cons.mp h
    have hiteration : ∀ v w, R v w →
        (renderAll body (s.push item v)).1 = (renderAll body (s'.push item w)).1 :=
      fun v w hvw => renderAll_alike hR body hbody (hs.push item hvw)
    rw [render_loop_fst, render_loop_fst]
    exact flatMap_eq_of_forall₂ (Render.itemsOf_rel hR (hs.resolve?_rel hR hcollection)) hiteration
  | choice branches otherwise location, h, s, s', hs => by
    obtain ⟨hchoice, hrest⟩ := List.forall_mem_cons.mp h
    obtain ⟨hbranches, hotherwise⟩ := List.forall_mem_append.mp hrest
    rw [render_choice_fst, render_choice_fst,
      renderBranches?_alike hR branches hchoice hbranches hs,
      renderOtherwise_alike hR otherwise hotherwise hs]
  | inert _ _, _, _, _, _ => rfl

/-- **Like values give the same text.** If the names that nodes look up mean like values in two
scopes, and the filters of the nodes do not tell like values apart, the nodes have the same text in
both scopes. -/
theorem renderAll_alike (hR : Value.IsLikeness R) : (nodes : List Node) →
    (∀ n ∈ preorderAll nodes, n.Respects R P Q) →
    {s s' : Scope} → s.Alike R P Q s' → (renderAll nodes s).1 = (renderAll nodes s').1
  | [], _, _, _, _ => rfl
  | node :: nodes, h, s, s', hs => by
    obtain ⟨hnode, hnodes⟩ := List.forall_mem_append.mp h
    rw [renderAll_cons_fst, renderAll_cons_fst, render_alike hR node hnode hs,
      renderAll_alike hR nodes hnodes hs]

theorem renderBranches?_alike (hR : Value.IsLikeness R) : (branches : List Branch) →
    (∀ branch ∈ branches, P branch.condition.path.head) →
    (∀ n ∈ preorderBranches branches, n.Respects R P Q) →
    {s s' : Scope} → s.Alike R P Q s' →
      (renderBranches? branches s).map Prod.fst = (renderBranches? branches s').map Prod.fst
  | [], _, _, _, _, _ => rfl
  | branch :: branches, hheads, h, s, s', hs => by
    obtain ⟨hhead, hheads⟩ := List.forall_mem_cons.mp hheads
    obtain ⟨hbranch, hbranches⟩ := List.forall_mem_append.mp h
    rw [renderBranches?, renderBranches?, hs.holds_eq hR hhead]
    split
    · exact congrArg some (renderBranch_alike hR branch hbranch hs)
    · exact renderBranches?_alike hR branches hheads hbranches hs

theorem renderBranch_alike (hR : Value.IsLikeness R) : (branch : Branch) →
    (∀ n ∈ preorderBranch branch, n.Respects R P Q) →
    {s s' : Scope} → s.Alike R P Q s' → (renderBranch branch s).1 = (renderBranch branch s').1
  | .mk _ body _, h, _, _, hs => renderAll_alike hR body h hs

theorem renderOtherwise_alike (hR : Value.IsLikeness R) : (otherwise : Option (List Node)) →
    (∀ n ∈ preorderOtherwise otherwise, n.Respects R P Q) →
    {s s' : Scope} → s.Alike R P Q s' →
      (renderOtherwise otherwise s).1 = (renderOtherwise otherwise s').1
  | none, _, _, _, _ => rfl
  | some body, h, _, _, hs => renderAll_alike hR body h hs

end

end Node

end PageTemplate
