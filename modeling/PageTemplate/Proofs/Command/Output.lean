import PageTemplate.Command.Arguments
import PageTemplate.Proofs.File.Writing

/-!
# Command lines without their output

The words of a command line that give the output of `render` can be taken out of it. They are found
by reading it word by word, since what looks like an option may be the value of the option before
it, and what stands behind `--` is no option. The words that are left ask for the same, only without
an output.

## Main definitions

* `PageTemplate.Command.wordLeft` — what is left of a word.
* `PageTemplate.Command.withoutOutput` — a command line without its output.

## Main statements

* `PageTemplate.Command.step_wordLeft` — what is left of one word says the same but for the output.
* `PageTemplate.Command.readWords_wordsLeft` — what is left of words says the same but for the
  output.
* `PageTemplate.Command.ofArgs_withoutOutput` — a command line without its output asks for the same
  page.
-/

namespace PageTemplate.Command

/-! ### Taking the output out -/

/-- What is left of a word when the output it gives is taken out: nothing of a value or a name, and
of letters those before the letter of the output. -/
def wordLeft : Mode → Text → List Text
  | .value .output _, _ => []
  | .option, word =>
    match formOf word with
    | .name text => if (splitName text).1 = "output" then [] else [word]
    | .letters letters =>
      if (letters.dropWhile (· == 'v')).head? = some 'o' then
        match letters.takeWhile (· == 'v') with
        | [] => []
        | flags => ['-' :: flags]
      else [word]
    | _ => [word]
  | _, word => [word]

/-- How the word after a word of `render` is read. -/
def Mode.next (mode : Mode) (word : Text) : Mode :=
  match step .render mode word with
  | .ok (_, mode) => mode
  | .error _ => .ignored

/-- What is left of words of `render`. -/
def wordsLeft : Mode → List Text → List Text
  | _, [] => []
  | mode, word :: rest => wordLeft mode word ++ wordsLeft (mode.next word) rest

/-- A command line of `render` without the words that give the output. -/
def withoutOutput (args : List Text) : List Text :=
  args.takeWhile isOption ++
    match args.dropWhile isOption with
    | [] => []
    | name :: rest => name :: wordsLeft .option rest

example : withoutOutput ["-v", "render", "-vo", "p", "--output=q", "--data", "o", "--", "-o"] =
    (["-v", "render", "-v", "--data", "o", "--", "-o"] : List Text) := by decide

/-! ### What is left says the same -/

/-- Whether the item is an output. -/
def Item.isOutput : Item → Bool
  | .value .output _ => true
  | _ => false

/-- The items but for the outputs. -/
def itemsLeft (items : List Item) : List Item :=
  items.filter fun item => !item.isOutput

/-- How the next word is read if the word that asks for the output is taken out. -/
def Mode.left : Mode → Mode
  | .value .output _ => .option
  | mode => mode

section Step

variable {word text : Text} {mode mode' : Mode} {items : List Item}

/-- A parameter other than the output gives no output. -/
theorem itemsLeft_value {p : Parameter} (hp : p ≠ .output) (value : Text) :
    itemsLeft [.value p value] = [.value p value] := by
  cases p with
  | output => exact absurd rfl hp
  | _ => rfl

theorem left_value {p : Parameter} (hp : p ≠ .output) (word : Text) :
    (Mode.value p word).left = .value p word := by
  cases p with
  | output => exact absurd rfl hp
  | _ => rfl

/-- A flag gives no output. -/
theorem left_flag (f : Flag) : itemsLeft [.flag f] = [.flag f] ∧ f.mode.left = f.mode := by
  cases f <;> exact ⟨rfl, rfl⟩

theorem readName_of_ne (h : readName .render word text = .ok (items, mode))
    (hname : (splitName text).1 ≠ "output") : itemsLeft items = items ∧ mode.left = mode := by
  unfold readName at h
  generalize splitName text = parts at h hname
  obtain ⟨name, value⟩ := parts
  dsimp only at h hname
  split at h
  · split at h
    · cases h
    · cases h
      exact left_flag _
  · split at h
    · cases h
    · next p hfind =>
      have hp : p ≠ .output := by
        rintro rfl
        have hbeq := List.find?_some hfind
        exact hname (beq_iff_eq.mp hbeq).symm
      cases value with
      | some value =>
        cases h
        exact ⟨itemsLeft_value hp value, rfl⟩
      | none =>
        cases h
        exact ⟨rfl, left_value hp word⟩

theorem readName_of_eq (h : readName .render word text = .ok (items, mode))
    (hname : (splitName text).1 = "output") : itemsLeft items = [] ∧ mode.left = .option := by
  unfold readName at h
  generalize splitName text = parts at h hname
  obtain ⟨name, value⟩ := parts
  cases hname
  cases value with
  | some value =>
    cases h
    exact ⟨rfl, rfl⟩
  | none =>
    cases h
    exact ⟨rfl, rfl⟩

theorem readLetters_of_ne {letters : Text}
    (h : readLetters .render word letters = .ok (items, mode))
    (hletter : (letters.dropWhile (· == 'v')).head? ≠ some 'o') :
    itemsLeft items = items ∧ mode.left = mode := by
  induction letters generalizing items with
  | nil =>
    cases h
    exact ⟨rfl, rfl⟩
  | cons c rest ih =>
    rw [readLetters] at h
    split at h
    · next hfind =>
      -- the letter of `--verbose`; the letters after it decide
      obtain ⟨⟨said, next⟩, hrest, hresult⟩ := bind_eq_ok_iff.mp h
      cases hresult
      have hbeq := List.find?_some hfind
      obtain rfl : 'v' = c := beq_iff_eq.mp hbeq
      obtain ⟨hsaid, hmode⟩ := ih hrest hletter
      exact ⟨congrArg (Item.flag .verbose :: ·) hsaid, hmode⟩
    · cases h
      exact left_flag _
    · next hflag =>
      split at h
      · cases h
      · next p hfind =>
        have hp : p ≠ .output := by
          rintro rfl
          have hbeq := List.find?_some hfind
          obtain rfl : 'o' = c := Option.some.inj (beq_iff_eq.mp hbeq)
          exact hletter rfl
        split at h
        · cases h
          exact ⟨rfl, left_value hp word⟩
        · cases h
          exact ⟨itemsLeft_value hp _, rfl⟩
        · cases h
          exact ⟨itemsLeft_value hp _, rfl⟩

theorem readLetters_output (word rest : Text) :
    readLetters .render word ('o' :: rest) =
      match rest with
      | [] => .ok ([], .value .output word)
      | '=' :: value => .ok ([.value .output value], .option)
      | value => .ok ([.value .output value], .option) :=
  rfl

theorem readLetters_of_eq {letters : Text}
    (h : readLetters .render word letters = .ok (items, mode))
    (hletter : (letters.dropWhile (· == 'v')).head? = some 'o') (word' : Text) :
    readLetters .render word' (letters.takeWhile (· == 'v')) = .ok (itemsLeft items, .option) ∧
      mode.left = .option := by
  induction letters generalizing items with
  | nil => cases hletter
  | cons c rest ih =>
    by_cases hc : c = 'v'
    · subst hc
      obtain ⟨⟨said, next⟩, hrest, hresult⟩ := bind_eq_ok_iff.mp h
      cases hresult
      obtain ⟨hsaid, hmode⟩ := ih hrest hletter
      refine ⟨?_, hmode⟩
      rw [List.takeWhile_cons_of_pos rfl]
      exact bind_eq_ok_iff.mpr ⟨_, hsaid, rfl⟩
    · have hdrop : (c :: rest).dropWhile (· == 'v') = c :: rest :=
        List.dropWhile_cons_of_neg (by simpa using hc)
      have htake : (c :: rest).takeWhile (· == 'v') = [] :=
        List.takeWhile_cons_of_neg (by simpa using hc)
      rw [hdrop] at hletter
      cases hletter
      rw [htake]
      rw [readLetters_output] at h
      split at h <;> cases h <;> exact ⟨rfl, rfl⟩

/-- The letters before the letter of the output, if there are any, say the same as a word. -/
theorem step_takeWhile {letters : Text}
    (h : readLetters .render word letters = .ok (items, mode))
    (hletter : (letters.dropWhile (· == 'v')).head? = some 'o') :
    (letters.takeWhile (· == 'v') = [] ∧ itemsLeft items = []) ∨
      ∃ c flags, letters.takeWhile (· == 'v') = c :: flags ∧
        step .render .option ('-' :: c :: flags) = .ok (itemsLeft items, .option) := by
  have hread := fun word' => (readLetters_of_eq h hletter word').1
  have hflag : ∀ c ∈ letters.takeWhile (· == 'v'), (c == 'v') = true :=
    fun c => List.mem_takeWhile_imp
  cases hflags : letters.takeWhile (· == 'v') with
  | nil =>
    rw [hflags] at hread
    exact .inl ⟨rfl, (congrArg Prod.fst (Except.ok.inj (hread word))).symm⟩
  | cons c flags =>
    rw [hflags] at hread hflag
    obtain rfl : c = 'v' := beq_iff_eq.mp (hflag c List.mem_cons_self)
    exact .inr ⟨'v', flags, rfl, hread ('-' :: 'v' :: flags)⟩

/-- **What is left of a word says the same but for the output.** If nothing is left, nothing else was
said, and otherwise the next word is read as before. -/
theorem step_wordLeft (h : step .render mode word = .ok (items, mode')) :
    (wordLeft mode word = [] ∧ itemsLeft items = [] ∧ mode'.left = mode.left) ∨
      ∃ word', wordLeft mode word = [word'] ∧
        step .render mode.left word' = .ok (itemsLeft items, mode'.left) := by
  -- a word that gives no output stays
  have kept (hmode : mode.left = mode) (hword : wordLeft mode word = [word])
      (hsame : itemsLeft items = items ∧ mode'.left = mode') :
      ∃ word', wordLeft mode word = [word'] ∧
        step .render mode.left word' = .ok (itemsLeft items, mode'.left) :=
    ⟨word, hword, by rw [hmode, hsame.1, hsame.2, h]⟩
  cases mode with
  | ignored =>
    cases h
    exact .inr (kept rfl rfl ⟨rfl, rfl⟩)
  | argument =>
    cases h
    exact .inr (kept rfl rfl ⟨rfl, rfl⟩)
  | value p asking =>
    have hread := h
    rw [step] at hread
    split at hread
    · cases hread
    · cases hread
      by_cases hp : p = .output
      · subst hp
        exact .inl ⟨rfl, rfl, rfl⟩
      · refine .inr (kept (left_value hp asking) ?_ ⟨itemsLeft_value hp word, rfl⟩)
        cases p with
        | output => exact absurd rfl hp
        | _ => rfl
  | option =>
    have hread := h
    rw [step] at hread
    rw [wordLeft] at kept ⊢
    cases hform : formOf word with
    | plain =>
      rw [hform] at hread kept
      cases hread
      exact .inr (kept rfl rfl ⟨rfl, rfl⟩)
    | hyphens =>
      rw [hform] at hread kept
      cases hread
      exact .inr (kept rfl rfl ⟨rfl, rfl⟩)
    | name text =>
      rw [hform] at hread kept
      by_cases hname : (splitName text).1 = "output"
      · obtain ⟨hsaid, hmode⟩ := readName_of_eq hread hname
        exact .inl ⟨if_pos hname, hsaid, hmode⟩
      · exact .inr (kept rfl (if_neg hname) (readName_of_ne hread hname))
    | letters letters =>
      rw [hform] at hread kept
      by_cases hletter : (letters.dropWhile (· == 'v')).head? = some 'o'
      · have hmode := (readLetters_of_eq hread hletter word).2
        dsimp only
        rw [if_pos hletter, hmode]
        obtain ⟨hflags, hsaid⟩ | ⟨c, flags, hflags, hsaid⟩ := step_takeWhile hread hletter
        · rw [hflags]
          exact .inl ⟨rfl, hsaid, rfl⟩
        · rw [hflags]
          exact .inr ⟨_, rfl, hsaid⟩
      · exact .inr (kept rfl (if_neg hletter) (readLetters_of_ne hread hletter))

end Step

/-- **What is left of words says the same but for the output.** -/
theorem readWords_wordsLeft {mode : Mode} {words : List Text} {items : List Item}
    (h : readWords .render mode words = .ok items) :
    readWords .render mode.left (wordsLeft mode words) = .ok (itemsLeft items) := by
  induction words generalizing mode items with
  | nil =>
    cases mode with
    | value p asking => cases h
    | _ =>
      cases h
      rfl
  | cons word rest ih =>
    rw [readWords] at h
    obtain ⟨⟨said, next⟩, hstep, hrest⟩ := bind_eq_ok_iff.mp h
    obtain ⟨others, hothers, hitems⟩ := bind_eq_ok_iff.mp hrest
    cases hitems
    have hnext : mode.next word = next := by rw [Mode.next, hstep]
    have hleft : itemsLeft (said ++ others) = itemsLeft said ++ itemsLeft others :=
      List.filter_append ..
    rw [wordsLeft, hnext, hleft]
    obtain ⟨hnone, hsaid, hmode⟩ | ⟨word', hword, hstep'⟩ := step_wordLeft hstep
    · rw [hnone, hsaid, ← hmode]
      exact ih hothers
    · rw [hword, List.singleton_append, readWords]
      exact bind_eq_ok_iff.mpr ⟨_, hstep', bind_eq_ok_iff.mpr ⟨_, ih hothers, rfl⟩⟩

/-! ### The command is the same but for the output -/

section Items

variable {items : List Item} {p : Parameter}

/-- What no output gives is given by the items that are left. -/
theorem filterMap_itemsLeft {α : Type} {f : Item → Option α}
    (hf : ∀ value, f (.value .output value) = none) (items : List Item) :
    (itemsLeft items).filterMap f = items.filterMap f := by
  rw [itemsLeft, List.filterMap_filter]
  refine congrArg (List.filterMap · items) (funext fun item => ?_)
  rcases item with flag | ⟨q, value⟩ | word
  · rfl
  · cases q with
    | output => exact (hf value).symm
    | _ => rfl
  · rfl

theorem argument?_itemsLeft (items : List Item) : argument? (itemsLeft items) = argument? items := by
  have harguments : argumentsOf (itemsLeft items) = argumentsOf items :=
    filterMap_itemsLeft (fun _ => rfl) items
  rw [argument?, argument?, harguments]

theorem valuesOf_itemsLeft (hp : p ≠ .output) (items : List Item) :
    valuesOf p (itemsLeft items) = valuesOf p items :=
  filterMap_itemsLeft (fun _ => if_neg hp.symm) items

theorem path?_itemsLeft (hp : p ≠ .output) (items : List Item) :
    path? (itemsLeft items) p = path? items p := by
  rw [path?, path?, valuesOf_itemsLeft hp]

theorem path?_itemsLeft_output (items : List Item) : path? (itemsLeft items) .output = .ok none := by
  have hvalues : valuesOf .output (itemsLeft items) = [] := by
    rw [valuesOf, itemsLeft, List.filterMap_filter, List.filterMap_eq_nil_iff]
    rintro (f | ⟨q, value⟩ | word) -
    · rfl
    · cases q <;> rfl
    · rfl
  rw [path?, hvalues]

theorem contains_itemsLeft (items : List Item) (f : Flag) :
    (itemsLeft items).contains (.flag f) = items.contains (.flag f) := by
  rw [Bool.eq_iff_iff, List.contains_iff_mem, List.contains_iff_mem, itemsLeft, List.mem_filter]
  exact and_iff_left rfl

theorem itemsOf_wordsLeft {words : List Text} (h : itemsOf .render words = .ok items) :
    itemsOf .render (wordsLeft .option words) = .ok (itemsLeft items) := by
  obtain ⟨read, hread, hresult⟩ := bind_eq_ok_iff.mp h
  obtain ⟨hverbose, hitems⟩ := guard_eq_ok_iff.mp hresult
  cases hitems
  refine bind_eq_ok_iff.mpr ⟨_, readWords_wordsLeft hread, guard_eq_ok_iff.mpr ⟨?_, rfl⟩⟩
  rwa [itemsLeft, List.count_filter rfl]

end Items

section Command

variable {args : List Text} {o : RenderOptions}

theorem ofRenderArgs_wordsLeft (h : ofRenderArgs args = .ok (.render o)) :
    ofRenderArgs (wordsLeft .option args) = .ok (.render { o with output := none }) := by
  obtain ⟨items, hitems, h⟩ := bind_eq_ok_iff.mp h
  obtain ⟨template, htemplate, h⟩ := bind_eq_ok_iff.mp h
  obtain ⟨data, hdata, h⟩ := bind_eq_ok_iff.mp h
  obtain ⟨config, hconfig, h⟩ := bind_eq_ok_iff.mp h
  obtain ⟨root, hroot, h⟩ := bind_eq_ok_iff.mp h
  obtain ⟨output, -, h⟩ := bind_eq_ok_iff.mp h
  split at h
  · cases h
  · next hhelp =>
    cases template with
    | none => cases h
    | some template =>
      cases h
      refine bind_eq_ok_iff.mpr ⟨_, itemsOf_wordsLeft hitems, ?_⟩
      refine bind_eq_ok_iff.mpr ⟨_, (argument?_itemsLeft items).trans htemplate, ?_⟩
      refine bind_eq_ok_iff.mpr ⟨_, (path?_itemsLeft (p := .data) nofun items).trans hdata, ?_⟩
      refine bind_eq_ok_iff.mpr ⟨_, (path?_itemsLeft (p := .config) nofun items).trans hconfig, ?_⟩
      refine bind_eq_ok_iff.mpr ⟨_, (path?_itemsLeft (p := .root) nofun items).trans hroot, ?_⟩
      refine bind_eq_ok_iff.mpr ⟨_, path?_itemsLeft_output items, ?_⟩
      rw [contains_itemsLeft, if_neg hhelp, valuesOf_itemsLeft (p := .set) nofun]
      rfl

theorem ofTokensArgs_ne : ofTokensArgs args ≠ .ok (.render o) := by
  intro h
  obtain ⟨items, -, h⟩ := bind_eq_ok_iff.mp h
  obtain ⟨file, -, h⟩ := bind_eq_ok_iff.mp h
  obtain ⟨-, h⟩ := guard_eq_ok_iff.mp h
  split at h
  · cases h
  · cases file <;> cases h

theorem ofHelpArgs_ne : ofHelpArgs args ≠ .ok (.render o) := by
  unfold ofHelpArgs
  split
  · nofun
  · split <;> nofun

/-- The words before the name of the command stay. -/
theorem withoutOutput_eq {name : Text} {rest : List Text}
    (h : args.dropWhile isOption = name :: rest) :
    (withoutOutput args).takeWhile isOption = args.takeWhile isOption ∧
      (withoutOutput args).dropWhile isOption = name :: wordsLeft .option rest := by
  have hoptions : ∀ word ∈ args.takeWhile isOption, isOption word = true :=
    fun word => List.mem_takeWhile_imp
  have hname : ¬isOption name = true := by
    have hhead := List.head?_dropWhile_not isOption args
    rw [h] at hhead
    exact Bool.not_eq_true _ ▸ hhead
  rw [withoutOutput, h, List.takeWhile_append_of_pos hoptions, List.dropWhile_append_of_pos hoptions]
  dsimp only
  rw [List.takeWhile_cons_of_neg hname, List.dropWhile_cons_of_neg hname, List.append_nil]
  exact ⟨rfl, rfl⟩

/-- **A command line without its output asks for the same page.** -/
theorem ofArgs_withoutOutput (h : ofArgs args = .ok (.render o)) :
    ofArgs (withoutOutput args) = .ok (.render { o with output := none }) := by
  obtain ⟨items, hitems, h⟩ := bind_eq_ok_iff.mp h
  split at h
  · cases h
  · next hhelp =>
    split at h
    · cases h
    · next hversion =>
      cases hrest : args.dropWhile isOption with
      | nil =>
        rw [hrest] at h
        cases h
      | cons name rest =>
        rw [hrest] at h
        obtain ⟨hhyphens, h⟩ := guard_eq_ok_iff.mp h
        cases htopic : Topic.ofName? name with
        | none =>
          rw [htopic] at h
          cases h
        | some topic =>
          rw [htopic] at h
          cases topic with
          | program => cases h
          | tokens => exact absurd h ofTokensArgs_ne
          | help => exact absurd h ofHelpArgs_ne
          | render =>
            obtain ⟨htake, hdrop⟩ := withoutOutput_eq hrest
            rw [ofArgs, htake, hdrop]
            refine bind_eq_ok_iff.mpr ⟨_, hitems, ?_⟩
            rw [if_neg hhelp, if_neg hversion]
            refine guard_eq_ok_iff.mpr ⟨hhyphens, ?_⟩
            rw [htopic]
            exact ofRenderArgs_wordsLeft h

end Command

end PageTemplate.Command
