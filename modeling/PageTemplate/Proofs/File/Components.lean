import Mathlib.Data.List.TakeWhile
import PageTemplate.File.Path
import PageTemplate.Proofs.Text.Split

/-!
# Components of file paths

A path is read as a list of components: its stem, which is the root or a `.` at the beginning, if it
has one, and the names between its slashes, with empty names and `.` left out. Two paths with the
same components are the same path, however many slashes are written in them.

## Main definitions

* `PageTemplate.FilePath.components` — the components of a path.
* `PageTemplate.FilePath.IsName` — a text that is one component, put after any path.

## Main statements

* `PageTemplate.FilePath.components_join` — a name put after a path is one more component.
* `PageTemplate.FilePath.components_parent?` — the parent of a path lacks its last component.
* `PageTemplate.FilePath.components_withFileName` — another last component in place of a name.
-/

namespace PageTemplate.FilePath

/-- The components of a path: its stem, if it has one, and then names. -/
def components (p : FilePath) : List Text :=
  (if p.stem.isEmpty then [] else [p.stem]) ++ namesIn p.text

/-- The text is a single component when it is put after a path: it has no slash, and it is neither
empty nor `.`. -/
def IsName (name : Text) : Prop :=
  '/' ∉ name ∧ isFiller name = false

variable {p p' : FilePath} {name : Text}

/-! ### Names between slashes -/

@[simp] theorem namesIn_nil : namesIn [] = [] := rfl

theorem namesIn_append (front back : Text) :
    namesIn (front ++ '/' :: back) = namesIn front ++ namesIn back := by
  rw [namesIn, List.splitOn_append_cons_self, List.filter_append, namesIn, namesIn]

@[simp] theorem namesIn_slash_cons (text : Text) : namesIn ('/' :: text) = namesIn text :=
  namesIn_append [] text

theorem IsName.namesIn_eq (h : IsName name) : namesIn name = [name] := by
  rw [namesIn, List.splitOn_eq_singleton h.1, List.filter_cons_of_pos (by simp [h.2]),
    List.filter_nil]

theorem isName_of_mem_namesIn {text : Text} (h : name ∈ namesIn text) : IsName name := by
  obtain ⟨hmem, hname⟩ := List.mem_filter.mp h
  exact ⟨Text.not_mem_of_mem_splitOn hmem, by simpa using hname⟩

theorem IsName.ne_nil (h : IsName name) : name ≠ [] := by
  rintro rfl
  exact Bool.noConfusion h.2

theorem IsName.ne_dot (h : IsName name) : name ≠ "." := by
  rintro rfl
  exact Bool.noConfusion h.2

theorem IsName.head?_ne (h : IsName name) : name.head? ≠ some '/' :=
  fun heq => h.1 (List.mem_of_head? heq)

/-- Names put together with slashes between them are the names of the text. -/
theorem namesIn_join {pieces : List Text} (hne : pieces ≠ []) (h : ∀ piece ∈ pieces, '/' ∉ piece) :
    namesIn (Text.join "/" pieces) = pieces.filter fun name => !isFiller name := by
  have hsplit : (Text.join "/" pieces).splitOn '/' = pieces := List.splitOn_intercalate '/' h hne
  rw [namesIn, hsplit]

/-! ### The stem -/

/-- What is written after a path does not change its stem, if a slash divides the two. -/
theorem stem_append {text back : Text} (hne : text ≠ [])
    (h : text.getLast? = some '/' ∨ back.head? = some '/') :
    stem ⟨text ++ back⟩ = stem ⟨text⟩ := by
  match text, hne, h with
  | [c], _, h =>
    by_cases hslash : c = '/'
    · simp [stem, hslash]
    · by_cases hdot : c = '.'
      · subst hdot
        cases back with
        | nil => simp at h
        | cons d back =>
          have hd : d = '/' := by simpa using h
          simp [stem, hd]
      · simp [stem, hslash, hdot]
  | c :: d :: text, _, _ =>
    by_cases hslash : c = '/'
    · simp [stem, hslash]
    · by_cases hdot : c = '.'
      · by_cases hd : d = '/'
        · simp [stem, hdot, hd]
        · simp [stem, hdot, hd]
      · simp [stem, hslash, hdot]

theorem IsName.stem_eq (h : IsName name) : stem ⟨name⟩ = [] := by
  unfold stem
  split
  · next heq => exact absurd (by simp [show name = _ from heq]) h.1
  · next heq =>
    have hdot : name = ['.'] := heq
    exact Bool.noConfusion (hdot ▸ h.2)
  · next heq => exact absurd (by simp [show name = _ from heq]) h.1
  · rfl

/-- A path consists of its stem and the rest, and the names are those of the rest. -/
theorem stem_append_drop (p : FilePath) :
    p.stem ++ p.text.drop p.stem.length = p.text ∧
      namesIn (p.text.drop p.stem.length) = namesIn p.text := by
  unfold stem
  split
  · next rest heq => simp [heq]
  · next heq =>
    rw [heq]
    decide
  · next rest heq =>
    rw [heq]
    exact ⟨rfl, (namesIn_append ['.'] rest).symm⟩
  · simp

/-! ### One path after another -/

theorem namesIn_text_join (p : FilePath) (h : IsName name) :
    namesIn (p.join name).text = namesIn p.text ++ [name] := by
  rw [join, if_neg (mt beq_iff_eq.mp h.head?_ne)]
  split
  · next hend =>
    rcases Bool.or_eq_true_iff.mp hend with hempty | hslash
    · simp [List.isEmpty_iff.mp hempty, h.namesIn_eq]
    · obtain ⟨front, hfront⟩ := List.getLast?_eq_some_iff.mp (beq_iff_eq.mp hslash)
      rw [hfront, namesIn_append front [], List.append_assoc, List.singleton_append,
        namesIn_append, h.namesIn_eq, namesIn_nil, List.append_nil]
  · rw [namesIn_append, h.namesIn_eq]

theorem stem_join (p : FilePath) (h : IsName name) : (p.join name).stem = p.stem := by
  rw [join, if_neg (mt beq_iff_eq.mp h.head?_ne)]
  split
  · next hend =>
    by_cases hempty : p.text = []
    · have hstem : p.stem = [] := by
        unfold stem
        rw [hempty]
      rw [hempty, List.nil_append, h.stem_eq, hstem]
    · rcases Bool.or_eq_true_iff.mp hend with hnil | hslash
      · exact absurd (List.isEmpty_iff.mp hnil) hempty
      · exact stem_append hempty (Or.inl (beq_iff_eq.mp hslash))
  · next hend =>
    have hempty : p.text ≠ [] := fun heq => hend (by simp [heq])
    exact stem_append hempty (Or.inr rfl)

/-- **A name put after a path is one more component.** -/
theorem components_join (p : FilePath) (h : IsName name) :
    (p.join name).components = p.components ++ [name] := by
  rw [components, components, stem_join p h, namesIn_text_join p h, List.append_assoc]

theorem components_foldl_join (names : List Text) (h : ∀ name ∈ names, IsName name)
    (p : FilePath) : (names.foldl join p).components = p.components ++ names := by
  induction names generalizing p with
  | nil => simp
  | cons name names ih =>
    obtain ⟨hname, hnames⟩ := List.forall_mem_cons.mp h
    rw [List.foldl_cons, ih hnames, components_join p hname, List.append_assoc,
      List.singleton_append]

/-! ### The last component -/

/-- The last component, if it is a name, is the last of the names. -/
theorem fileName?_eq (p : FilePath) :
    p.fileName? = (namesIn p.text).getLast?.filter fun name : Text => name != ".." := by
  have hlast : p.namesBackwards.head? = (namesIn p.text).getLast? := by
    rw [namesBackwards, ← List.find?_not_eq_head?_dropWhile, ← p.stem_append_drop.2, namesIn,
      List.getLast?_eq_head?_reverse, ← List.filter_reverse, List.head?_filter]
  rw [fileName?, hlast]

theorem fileName?_join (p : FilePath) (h : IsName name) (hup : name ≠ "..") :
    (p.join name).fileName? = some name := by
  rw [fileName?_eq, namesIn_text_join p h, List.getLast?_concat]
  simpa using hup

theorem stem_stem (p : FilePath) : stem ⟨p.stem⟩ = p.stem ∧ namesIn p.stem = [] := by
  have hstem : p.stem = ['/'] ∨ p.stem = ['.'] ∨ p.stem = [] := by
    unfold stem
    split <;> simp
  rcases hstem with heq | heq | heq
  all_goals
    rw [heq]
    exact ⟨rfl, rfl⟩

/-- The pieces of a path between slashes, up to those that its parent keeps, and the others, among
which only the last component is a name. -/
theorem exists_pieces {before : List Text} (hnames : p.namesBackwards = name :: before) :
    ∃ back, (p.text.drop p.stem.length).splitOn '/' =
        (before.dropWhile isFiller).reverse ++ back ∧
      back ≠ [] ∧ (back.filter fun name => !isFiller name) = [name] := by
  have hfillers : ∀ pieces : List Text,
      ((pieces.takeWhile isFiller).reverse.filter fun name => !isFiller name) = [] :=
    fun pieces => List.filter_eq_nil_iff.mpr fun piece hpiece => by
      simp [List.mem_takeWhile_imp (List.mem_reverse.mp hpiece)]
  have hname : isFiller name = false := by
    have hhead := List.head?_dropWhile_not isFiller
      ((p.text.drop p.stem.length).splitOn '/').reverse
    rw [← namesBackwards, hnames] at hhead
    exact hhead
  refine ⟨(before.takeWhile isFiller).reverse ++ name ::
    (((p.text.drop p.stem.length).splitOn '/').reverse.takeWhile isFiller).reverse, ?_, by simp, ?_⟩
  · rw [← List.reverse_inj]
    simp only [List.reverse_append, List.reverse_cons, List.reverse_reverse, List.append_assoc]
    rw [List.takeWhile_append_dropWhile, List.singleton_append, ← hnames, namesBackwards,
      List.takeWhile_append_dropWhile]
  · rw [List.filter_append, List.filter_cons_of_pos (by simp [hname]), hfillers, hfillers]
    rfl

/-- **The parent of a path lacks its last component.** -/
theorem components_parent? {before : List Text} (hnames : p.namesBackwards = name :: before)
    (hparent : p.parent? = some p') : p.components = p'.components ++ [name] := by
  obtain ⟨back, hpieces, hne, hback⟩ := exists_pieces hnames
  have hp' : p' = ⟨p.stem ++ Text.join "/" (before.dropWhile isFiller).reverse⟩ := by
    rw [parent?, hnames] at hparent
    exact (Option.some.inj hparent).symm
  obtain ⟨htext, hnamesIn⟩ := p.stem_append_drop
  by_cases hkept : (before.dropWhile isFiller).reverse = []
  · -- the parent is the stem alone
    obtain ⟨hstem, hnone⟩ := p.stem_stem
    have hp' : p' = ⟨p.stem⟩ := by rw [hp', hkept]; simp [Text.join]
    rw [components, components, hp', hstem, hnone, ← hnamesIn, namesIn, hpieces, hkept,
      List.nil_append, hback, List.append_nil]
  · -- a slash stands between what the parent keeps and the rest
    have hslash : ∀ piece ∈ back, '/' ∉ piece := fun piece hpiece =>
      Text.not_mem_of_mem_splitOn (hpieces ▸ List.mem_append_right _ hpiece)
    have hcut : p.text = p'.text ++ '/' :: Text.join "/" back := by
      have hjoin : p.text.drop p.stem.length =
          Text.join "/" (before.dropWhile isFiller).reverse ++ '/' :: Text.join "/" back := by
        rw [← List.singleton_append, ← List.append_assoc]
        refine Eq.trans ?_ (Text.join_append ['/'] hkept hne)
        rw [← hpieces]
        exact (List.intercalate_splitOn '/').symm
      rw [← htext, hjoin, hp', List.append_assoc]
    have hp'ne : p'.text ≠ [] := by
      intro hnil
      have hroot : p.stem = ['/'] := by
        unfold stem
        rw [hcut, hnil]
        rfl
      rw [hp', hroot] at hnil
      simp at hnil
    have hstem : p.stem = p'.stem := by
      have happend : stem ⟨p'.text ++ '/' :: Text.join "/" back⟩ = p'.stem :=
        stem_append hp'ne (Or.inr rfl)
      rw [← hcut] at happend
      exact happend
    rw [components, components, hstem, hcut, namesIn_append, namesIn_join hne hslash, hback,
      List.append_assoc]

/-- **Another last component takes the place of a name.** -/
theorem components_withFileName {old new : Text} (hold : p.fileName? = some old)
    (hnew : IsName new) : (p.withFileName new).components = p.components.dropLast ++ [new] := by
  obtain ⟨before, hnames⟩ : ∃ before, p.namesBackwards = old :: before := by
    obtain ⟨hhead, -⟩ := Option.filter_eq_some_iff.mp hold
    exact List.head?_eq_some_iff.mp hhead
  obtain ⟨parent, hparent⟩ : ∃ parent, p.parent? = some parent := by
    rw [parent?, hnames]
    exact ⟨_, rfl⟩
  have hwith : p.withFileName new = parent.join new := by
    simp only [withFileName, hold, hparent]
  rw [hwith, components_join parent hnew, components_parent? hnames hparent, List.dropLast_concat]

end PageTemplate.FilePath
