import Mathlib.Data.List.Basic
import PageTemplate.Proofs.File.Components
import PageTemplate.Settings

/-!
# Where names lead

A name that is not rejected leads to a file below the root: the components of the path are those of
the root, the segments of the name, and nothing else, but for the extension at the end of the last
one.

## Main definitions

* `PageTemplate.Loader.fileOf` — the last component of the path of a name.

## Main statements

* `PageTemplate.Loader.resolve?_eq_none_iff` — which names are rejected.
* `PageTemplate.Loader.components_of_resolve?` — the components of the path of any other name.
* `PageTemplate.Loader.suffix_suffix_iff` — a name carries the extension if it does not end in a
  slash and its last segment carries it.
* `PageTemplate.Loader.resolve?_below_root` — no name leads out of the root.
* `PageTemplate.Loader.resolve?_eq_of_segments_eq` — how far the slashes of a name do not matter.
-/

namespace PageTemplate.Loader

variable {l : Loader} {name other last segment : Text} {front : List Text}

/-! ### Segments -/

theorem isSafeSegment_eq_false_iff (segment : Text) :
    isSafeSegment segment = false ↔
      segment = "." ∨ segment = ".." ∨ '\\' ∈ segment ∨ ':' ∈ segment ∨ '\x00' ∈ segment := by
  simp only [isSafeSegment, Bool.and_eq_false_iff, bne_eq_false_iff_eq, Bool.not_eq_false',
    List.contains_iff_mem, or_assoc]

theorem ne_up_of_isSafeSegment (h : isSafeSegment segment = true) : segment ≠ ".." := by
  rintro rfl
  exact Bool.noConfusion h

theorem ne_nil_of_mem_segments (h : segment ∈ segments name) : segment ≠ [] := by
  simpa using (List.mem_filter.mp h).2

theorem mem_segments_of_eq_append (h : segments name = front ++ [last]) :
    last ∈ segments name := by
  simp [h]

theorem not_mem_of_mem_segments (h : segment ∈ segments name) : '/' ∉ segment :=
  Text.not_mem_of_mem_splitOn (List.mem_filter.mp h).1

theorem isName_of_mem_segments (h : segment ∈ segments name)
    (hsafe : isSafeSegment segment = true) : FilePath.IsName segment := by
  refine ⟨not_mem_of_mem_segments h, ?_⟩
  have hdot : segment ≠ "." := by
    rintro rfl
    exact Bool.noConfusion hsafe
  simpa [FilePath.isFiller] using ⟨ne_nil_of_mem_segments h, hdot⟩

theorem fileName?_join_of_mem_segments (h : segment ∈ segments name)
    (hsafe : isSafeSegment segment = true) (path : FilePath) :
    (path.join segment).fileName? = some segment :=
  FilePath.fileName?_join path (isName_of_mem_segments h hsafe)
    (ne_up_of_isSafeSegment hsafe)

/-- Around the last segment of a name there are only slashes after it, and a slash before it, unless
the name begins with it. -/
theorem exists_eq_append (h : segments name = front ++ [last]) :
    ∃ before slashes, name = before ++ last ++ slashes ∧
      (before = [] ∨ before.getLast? = some '/') ∧ ∀ c ∈ slashes, c = '/' := by
  obtain ⟨front, rest, hpieces, -, hrest⟩ := List.filter_eq_append_iff.mp h
  obtain ⟨empty, after, rfl, -, -, hafter⟩ := List.filter_eq_cons_iff.mp hrest
  have hslashes : ∀ c ∈ after.flatMap (['/'] ++ ·), c = '/' := by
    intro c hc
    obtain ⟨piece, hpiece, hc⟩ := List.mem_flatMap.mp hc
    have hnil : piece = [] := by simpa using List.filter_eq_nil_iff.mp hafter piece hpiece
    simpa [hnil] using hc
  have hname : Text.join "/" (name.splitOn '/') = name := List.intercalate_splitOn '/'
  rw [hpieces, ← List.append_assoc] at hname
  by_cases hfront : front ++ empty = []
  · refine ⟨[], after.flatMap (['/'] ++ ·), ?_, Or.inl rfl, hslashes⟩
    rw [← hname, hfront, List.nil_append, List.nil_append]
    exact Text.join_cons _ _ _
  · refine ⟨Text.join "/" (front ++ empty) ++ ['/'], after.flatMap (['/'] ++ ·), ?_,
      Or.inr List.getLast?_concat, hslashes⟩
    rw [← hname, Text.join_append _ hfront (List.cons_ne_nil _ _), Text.join_cons]
    simp only [List.append_assoc]
    rfl

/-! ### The extension -/

theorem slash_not_mem_suffix (hext : '/' ∉ l.extension) : '/' ∉ l.suffix := by
  simpa [suffix] using hext

/-- A name carries the extension at its end exactly if it does not end in a slash and its last
segment carries the extension. -/
theorem suffix_suffix_iff (hext : '/' ∉ l.extension) (h : segments name = front ++ [last]) :
    l.suffix <:+ name ↔ name.getLast? ≠ some '/' ∧ l.suffix <:+ last := by
  have hlast := mem_segments_of_eq_append h
  obtain ⟨before, slashes, hname, hbefore, hslashes⟩ := exists_eq_append h
  rcases slashes.eq_nil_or_concat with rfl | ⟨slashes, c, rfl⟩
  · have hend : name.getLast? ≠ some '/' := by
      intro heq
      rw [hname, List.append_nil, List.getLast?_append_of_ne_nil _ (ne_nil_of_mem_segments hlast)]
        at heq
      exact not_mem_of_mem_segments hlast (List.mem_of_getLast? heq)
    rw [hname, List.append_nil] at hend ⊢
    rw [Text.suffix_append_append_iff (slash_not_mem_suffix hext) hbefore]
    exact ⟨fun hsuffix => ⟨hend, hsuffix⟩, And.right⟩
  · have hc : c = '/' := hslashes c (by simp)
    have hend : name.getLast? = some '/' := by
      rw [hname, hc, List.concat_eq_append, ← List.append_assoc, List.getLast?_concat]
    refine ⟨fun hsuffix => ?_, fun hsuffix => absurd hend hsuffix.1⟩
    -- the extension would end in the slash that the name ends in
    obtain ⟨rest, hrest⟩ := hsuffix
    have hne : l.suffix ≠ [] := List.cons_ne_nil _ _
    rw [← hrest, List.getLast?_append_of_ne_nil _ hne] at hend
    exact absurd (List.mem_of_getLast? hend) (slash_not_mem_suffix hext)

/-- The file that a name with this last segment leads to. -/
def fileOf (l : Loader) (name last : Text) : Text :=
  if l.suffix.isSuffixOf name then last else last ++ l.suffix

theorem isName_fileOf (h : segments name = front ++ [last])
    (hsafe : ∀ segment ∈ segments name, isSafeSegment segment = true) (hext : '/' ∉ l.extension) :
    FilePath.IsName (l.fileOf name last) := by
  have hlast := mem_segments_of_eq_append h
  have hname := isName_of_mem_segments hlast (hsafe last hlast)
  rw [fileOf]
  split
  · exact hname
  · refine ⟨?_, ?_⟩
    · rw [List.mem_append, not_or]
      exact ⟨hname.1, slash_not_mem_suffix hext⟩
    · obtain ⟨c, rest, rfl⟩ := List.exists_cons_of_ne_nil hname.ne_nil
      simp [FilePath.isFiller, suffix]

/-! ### The path of a name -/

theorem resolve?_eq_some (l : Loader) (h : segments name = front ++ [last])
    (hsafe : ∀ segment ∈ segments name, isSafeSegment segment = true) :
    l.resolve? name =
      let path := (front.foldl FilePath.join l.root).join last
      some (if l.suffix.isSuffixOf name then path else path.withFileName (last ++ l.suffix)) := by
  have hlast := mem_segments_of_eq_append h
  have hfile := fileName?_join_of_mem_segments hlast (hsafe last hlast)
    (front.foldl FilePath.join l.root)
  have hall : (front ++ [last]).all isSafeSegment = true := by
    rw [← h]
    exact List.all_eq_true.mpr hsafe
  have hfold : (front ++ [last]).foldl FilePath.join l.root =
      (front.foldl FilePath.join l.root).join last := by
    rw [List.foldl_append, List.foldl_cons, List.foldl_nil]
  simp only [resolve?, h, hall, hfold, hfile]
  simp
  split <;> rfl

/-- A name is rejected exactly if it has no segments or one that is not safe. -/
theorem resolve?_eq_none_iff (l : Loader) (name : Text) :
    l.resolve? name = none ↔
      segments name = [] ∨ ∃ segment ∈ segments name, isSafeSegment segment = false := by
  by_cases hsafe : ∀ segment ∈ segments name, isSafeSegment segment = true
  · have hno : ¬∃ segment ∈ segments name, isSafeSegment segment = false := by
      rintro ⟨segment, hsegment, hfalse⟩
      exact Bool.noConfusion ((hsafe segment hsegment).symm.trans hfalse)
    rw [or_iff_left hno]
    rcases (segments name).eq_nil_or_concat with hnil | ⟨front, last, h⟩
    · simp [resolve?, hnil]
    · rw [List.concat_eq_append] at h
      rw [resolve?_eq_some l h hsafe, h]
      simp
  · have hall : (segments name).all isSafeSegment = false := by
      simpa using hsafe
    have hunsafe : ∃ segment ∈ segments name, isSafeSegment segment = false := by
      simpa using hsafe
    exact iff_of_true (by simp [resolve?, hall]) (Or.inr hunsafe)

theorem exists_segments_of_resolve? {path : FilePath} (hpath : l.resolve? name = some path) :
    (∃ front last, segments name = front ++ [last]) ∧
      ∀ segment ∈ segments name, isSafeSegment segment = true := by
  have hnone : l.resolve? name ≠ none := by simp [hpath]
  rw [ne_eq, resolve?_eq_none_iff, not_or, not_exists] at hnone
  refine ⟨?_, fun segment hsegment => ?_⟩
  · rcases (segments name).eq_nil_or_concat with hnil | ⟨front, last, h⟩
    · exact absurd hnil hnone.1
    · exact ⟨front, last, by rw [h, List.concat_eq_append]⟩
  · exact Bool.of_not_eq_false fun hfalse => hnone.2 segment ⟨hsegment, hfalse⟩

/-- **The components of the path of a name** are those of the root, the segments of the name but the
last, and its file. -/
theorem components_of_resolve? {path : FilePath} (hext : '/' ∉ l.extension)
    (h : segments name = front ++ [last]) (hpath : l.resolve? name = some path) :
    path.components = l.root.components ++ front ++ [l.fileOf name last] := by
  obtain ⟨-, hsafe⟩ := exists_segments_of_resolve? hpath
  have hmem := mem_segments_of_eq_append h
  have hlast : FilePath.IsName last := isName_of_mem_segments hmem (hsafe last hmem)
  have hfront : ∀ segment ∈ front, FilePath.IsName segment := fun segment hsegment => by
    have hmem : segment ∈ segments name := by simp [h, hsegment]
    exact isName_of_mem_segments hmem (hsafe segment hmem)
  have hpathOf : ((front.foldl FilePath.join l.root).join last).components =
      l.root.components ++ front ++ [last] := by
    rw [FilePath.components_join _ hlast, FilePath.components_foldl_join front hfront]
  have hfile := isName_fileOf h hsafe hext
  rw [resolve?_eq_some l h hsafe] at hpath
  rw [← Option.some.inj hpath]
  by_cases hsuffix : l.suffix.isSuffixOf name = true
  · rw [if_pos hsuffix, fileOf, if_pos hsuffix, hpathOf]
  · rw [fileOf, if_neg hsuffix] at hfile
    rw [if_neg hsuffix, fileOf, if_neg hsuffix,
      FilePath.components_withFileName
        (fileName?_join_of_mem_segments hmem (hsafe last hmem) _) hfile,
      hpathOf, List.dropLast_concat]

/-- A name whose path carries the extension carries it already, or gets it. -/
theorem suffix_suffix_fileOf (hext : '/' ∉ l.extension) (h : segments name = front ++ [last]) :
    l.suffix <:+ l.fileOf name last := by
  rw [fileOf]
  split
  · next hsuffix =>
    exact ((suffix_suffix_iff hext h).mp (List.isSuffixOf_iff_suffix.mp hsuffix)).2
  · exact List.suffix_append last l.suffix

/-! ### Valid extensions -/

/-- Settings that pass their check have an extension for templates that is neither empty nor holds a
point or a slash. -/
theorem extension_of_validate {s : Settings} (hs : s.validate = .ok s) :
    s.templates.extension ≠ [] ∧ '.' ∉ s.templates.extension ∧ '/' ∉ s.templates.extension := by
  have hvalid : Settings.isValidExtension s.templates.extension = true := by
    by_contra hinvalid
    rw [Settings.validate, if_neg hinvalid] at hs
    exact nomatch hs
  simpa [Settings.isValidExtension, and_assoc] using hvalid

theorem append_suffix_ne_dots (hne : l.extension ≠ []) (hlast : last ≠ []) :
    last ++ l.suffix ≠ "." ∧ last ++ l.suffix ≠ ".." := by
  have hlength : 2 < (last ++ l.suffix).length := by
    have hlastLength := List.length_pos_iff.mpr hlast
    have hextLength := List.length_pos_iff.mpr hne
    rw [List.length_append, suffix, List.length_cons]
    omega
  constructor
  all_goals
    intro heq
    rw [heq] at hlength
    exact absurd hlength (by decide)

/-- A file with a valid extension is not `..`. -/
theorem fileOf_ne_up (hne : l.extension ≠ []) (h : segments name = front ++ [last])
    (hsafe : ∀ segment ∈ segments name, isSafeSegment segment = true) :
    l.fileOf name last ≠ ".." := by
  have hlast := mem_segments_of_eq_append h
  rw [fileOf]
  split
  · exact ne_up_of_isSafeSegment (hsafe last hlast)
  · exact (append_suffix_ne_dots hne (ne_nil_of_mem_segments hlast)).2

/-- A safe segment with a valid extension is unsafe only through a character of the extension. -/
theorem isSafeSegment_append_suffix (hne : l.extension ≠ []) (hlast : last ≠ [])
    (hsafe : isSafeSegment last = true) :
    isSafeSegment (last ++ l.suffix) = false ↔
      '\\' ∈ l.extension ∨ ':' ∈ l.extension ∨ '\x00' ∈ l.extension := by
  obtain ⟨hdot, hup⟩ := append_suffix_ne_dots hne hlast
  have hmem : ¬('\\' ∈ last ∨ ':' ∈ last ∨ '\x00' ∈ last) := fun hmem =>
    Bool.noConfusion
      (hsafe.symm.trans ((isSafeSegment_eq_false_iff last).mpr (Or.inr (Or.inr hmem))))
  rw [not_or, not_or] at hmem
  rw [isSafeSegment_eq_false_iff, or_iff_right hdot, or_iff_right hup]
  simp [hmem, suffix]

/-- **No name leads out of the root.** With a valid extension, a name is rejected exactly if it has
no segments or one that is `.` or `..` or holds a backslash, a colon or a NUL. Any other name leads
to the path that has the components of the root, then the segments of the name, of which only the
last may get the extension; what comes after the root is neither empty nor `.` nor `..`, has no
slash in it, and ends in the extension. -/
theorem resolve?_below_root {s : Settings} (hs : s.validate = .ok s) (name : Text) :
    (s.templates.resolve? name = none ↔
      segments name = [] ∨ ∃ segment ∈ segments name,
        segment = "." ∨ segment = ".." ∨ '\\' ∈ segment ∨ ':' ∈ segment ∨ '\x00' ∈ segment) ∧
    ∀ path, s.templates.resolve? name = some path →
      ∃ front last file, segments name = front ++ [last] ∧
        (file = last ∨ file = last ++ s.templates.suffix) ∧
        path.components = s.templates.root.components ++ front ++ [file] ∧
        (∀ component ∈ front ++ [file],
          component ≠ [] ∧ component ≠ "." ∧ component ≠ ".." ∧ '/' ∉ component) ∧
        s.templates.suffix <:+ file := by
  obtain ⟨hne, -, hext⟩ := extension_of_validate hs
  refine ⟨?_, fun path hpath => ?_⟩
  · rw [resolve?_eq_none_iff]
    simp only [isSafeSegment_eq_false_iff]
  · obtain ⟨⟨front, last, h⟩, hsafe⟩ := exists_segments_of_resolve? hpath
    refine ⟨front, last, s.templates.fileOf name last, h, ?_, components_of_resolve? hext h hpath,
      ?_, suffix_suffix_fileOf hext h⟩
    · rw [fileOf]
      split
      · exact Or.inl rfl
      · exact Or.inr rfl
    · intro component hcomponent
      rcases List.mem_append.mp hcomponent with hfront | hfile
      · have hmem : component ∈ segments name := by simp [h, hfront]
        have hname := isName_of_mem_segments hmem (hsafe component hmem)
        exact ⟨hname.ne_nil, hname.ne_dot, ne_up_of_isSafeSegment (hsafe component hmem), hname.1⟩
      · rw [List.mem_singleton.mp hfile]
        have hname := isName_fileOf h hsafe hext
        exact ⟨hname.ne_nil, hname.ne_dot, fileOf_ne_up hne h hsafe, hname.1⟩

/-- The settings where nothing is said, and a name with slashes around its segments. -/
theorem resolve?_below_root_page :
    let l := Settings.default.templates
    Settings.default.validate = .ok Settings.default ∧
    l.resolve? "//pages/tickets/" = some ⟨"templates/pages/tickets.twig"⟩ ∧
    ∃ front last file, segments "//pages/tickets/" = front ++ [last] ∧
      (file = last ∨ file = last ++ l.suffix) ∧
      (⟨"templates/pages/tickets.twig"⟩ : FilePath).components =
        l.root.components ++ front ++ [file] ∧
      (∀ component ∈ front ++ [file],
        component ≠ [] ∧ component ≠ "." ∧ component ≠ ".." ∧ '/' ∉ component) ∧
      l.suffix <:+ file := by
  intro l
  have hs : Settings.default.validate = .ok Settings.default := rfl
  have hpath : l.resolve? "//pages/tickets/" = some ⟨"templates/pages/tickets.twig"⟩ := by
    decide +kernel
  exact ⟨hs, hpath, (resolve?_below_root hs "//pages/tickets/").2 _ hpath⟩

/-! ### Names of one file -/

/-- Names with the same segments lead to the same path, if the last segment does not carry the
extension or both names end in a slash or neither does. -/
theorem resolve?_congr (hext : '/' ∉ l.extension) (hsegments : segments name = segments other)
    (hend : ∀ front last, segments name = front ++ [last] → l.suffix <:+ last →
      (name.getLast? = some '/' ↔ other.getLast? = some '/')) :
    l.resolve? name = l.resolve? other := by
  by_cases hnone : l.resolve? name = none
  · rw [hnone, eq_comm, resolve?_eq_none_iff, ← hsegments, ← resolve?_eq_none_iff]
    exact hnone
  · obtain ⟨path, hpath⟩ := Option.ne_none_iff_exists'.mp hnone
    obtain ⟨⟨front, last, h⟩, hsafe⟩ := exists_segments_of_resolve? hpath
    have hother : segments other = front ++ [last] := hsegments.symm.trans h
    have hsuffix : l.suffix.isSuffixOf name = l.suffix.isSuffixOf other := by
      rw [Bool.eq_iff_iff, List.isSuffixOf_iff_suffix, List.isSuffixOf_iff_suffix,
        suffix_suffix_iff hext h, suffix_suffix_iff hext hother]
      exact and_congr_left fun hlast => not_congr (hend front last h hlast)
    rw [resolve?_eq_some l h hsafe, resolve?_eq_some l hother (hsegments ▸ hsafe), hsuffix]

/-- The extension may be written: a name that has it leads to the components that the name without
it leads to. -/
theorem components_eq_of_segments_append {path path' : FilePath} (hext : '/' ∉ l.extension)
    (h : segments name = front ++ [last]) (hlast : ¬l.suffix <:+ last)
    (hpath : l.resolve? name = some path) (hother : segments other = front ++ [last ++ l.suffix])
    (hend : other.getLast? ≠ some '/') (hpath' : l.resolve? other = some path') :
    path'.components = path.components := by
  have hname : ¬l.suffix.isSuffixOf name = true := fun hsuffix =>
    hlast ((suffix_suffix_iff hext h).mp (List.isSuffixOf_iff_suffix.mp hsuffix)).2
  have hcarries : l.suffix.isSuffixOf other = true :=
    List.isSuffixOf_iff_suffix.mpr
      ((suffix_suffix_iff hext hother).mpr ⟨hend, List.suffix_append last l.suffix⟩)
  rw [components_of_resolve? hext h hpath, components_of_resolve? hext hother hpath', fileOf,
    if_pos hcarries, fileOf, if_neg hname]

/-- **How far the slashes of a name do not matter.** With a valid extension, names with the same
segments are both rejected or neither is. They lead to the same path, but for one thing: where the
last segment carries the extension, both names have to end in a slash, or neither of them.

Where the last segment does not carry the extension, it may be written there. Names with a
backslash, a colon or a NUL are rejected, so if the extension has one of these, then the name that
carries it is rejected. Otherwise it leads to the path of the name without it, unless it ends in a
slash. The two paths are the same as lists of components, not as texts: slashes at the end of the
root may be written in one and not in the other. -/
theorem resolve?_eq_of_segments_eq {s : Settings} (hs : s.validate = .ok s) (name other : Text) :
    (segments name = segments other →
      (s.templates.resolve? name = none ↔ s.templates.resolve? other = none) ∧
      ((∀ front last, segments name = front ++ [last] → s.templates.suffix <:+ last →
          (name.getLast? = some '/' ↔ other.getLast? = some '/')) →
        s.templates.resolve? name = s.templates.resolve? other)) ∧
    ∀ front last path, segments name = front ++ [last] → ¬s.templates.suffix <:+ last →
      s.templates.resolve? name = some path →
      segments other = front ++ [last ++ s.templates.suffix] →
      (s.templates.resolve? other = none ↔ '\\' ∈ s.templates.extension ∨
        ':' ∈ s.templates.extension ∨ '\x00' ∈ s.templates.extension) ∧
      (other.getLast? ≠ some '/' → ∀ path', s.templates.resolve? other = some path' →
        path'.components = path.components) := by
  obtain ⟨hne, -, hext⟩ := extension_of_validate hs
  refine ⟨fun hsegments => ⟨?_, resolve?_congr hext hsegments⟩,
    fun front last path h hlast hpath hother => ⟨?_, fun hend path' hpath' =>
      components_eq_of_segments_append hext h hlast hpath hother hend hpath'⟩⟩
  · rw [resolve?_eq_none_iff, resolve?_eq_none_iff, hsegments]
  · obtain ⟨-, hsafe⟩ := exists_segments_of_resolve? hpath
    rw [h] at hsafe
    have hmem := mem_segments_of_eq_append h
    -- the segments before the last one are those of the name that is not rejected
    have hfront : ¬∃ segment ∈ front, isSafeSegment segment = false := by
      rintro ⟨segment, hsegment, hfalse⟩
      exact Bool.noConfusion
        ((hsafe segment (List.mem_append_left _ hsegment)).symm.trans hfalse)
    have hlastSafe := hsafe last (List.mem_append_right _ (List.mem_singleton_self _))
    rw [resolve?_eq_none_iff, hother,
      ← isSafeSegment_append_suffix hne (ne_nil_of_mem_segments hmem) hlastSafe]
    simp only [List.append_eq_nil_iff, List.cons_ne_self, and_false, false_or, List.mem_append,
      List.mem_singleton, or_and_right, exists_or, exists_eq_left]
    exact or_iff_right hfront

/-- A root with slashes at its end: the paths of the names without and with the extension differ as
texts. -/
theorem resolve?_eq_of_segments_eq_tickets :
    let s : Settings := { Settings.default with templates := ⟨⟨"pages//"⟩, "twig"⟩ }
    s.validate = .ok s ∧
    s.templates.resolve? "/tickets.twig" = s.templates.resolve? "tickets.twig" ∧
    s.templates.resolve? "tickets" = some ⟨"pages/tickets.twig"⟩ ∧
    s.templates.resolve? "tickets.twig" = some ⟨"pages//tickets.twig"⟩ ∧
    (⟨"pages//tickets.twig"⟩ : FilePath).components =
      (⟨"pages/tickets.twig"⟩ : FilePath).components := by
  intro s
  have hs : s.validate = .ok s := rfl
  have hpath : s.templates.resolve? "tickets" = some ⟨"pages/tickets.twig"⟩ := by decide +kernel
  have hpath' : s.templates.resolve? "tickets.twig" = some ⟨"pages//tickets.twig"⟩ := by
    decide +kernel
  have hslash := (resolve?_eq_of_segments_eq hs "/tickets.twig" "tickets.twig").1
    (by decide +kernel)
  have hwritten := (resolve?_eq_of_segments_eq hs "tickets" "tickets.twig").2 [] "tickets" _
    (by decide +kernel) (by decide +kernel) hpath (by decide +kernel)
  exact ⟨hs, hslash.2 fun _ _ _ _ => iff_of_false (by decide) (by decide), hpath, hpath',
    hwritten.2 (by decide) _ hpath'⟩

/-- A slash at the end hides the extension that a name carries, and an extension with a colon passes
the check of the settings, although no name may carry it. -/
theorem resolve?_ne_of_slash_of_colon :
    (let l := Settings.default.templates
     Settings.default.validate = .ok Settings.default ∧
     segments "a.twig/" = segments "a.twig" ∧
     l.resolve? "a.twig/" = some ⟨"templates/a.twig.twig"⟩ ∧
     l.resolve? "a.twig" = some ⟨"templates/a.twig"⟩) ∧
    (let s : Settings := { Settings.default with templates := ⟨⟨"templates"⟩, "a:b"⟩ }
     s.validate = .ok s ∧
     segments "x" = ["x"] ∧ ¬s.templates.suffix <:+ "x" ∧
     segments "x.a:b" = ["x" ++ s.templates.suffix] ∧
     s.templates.resolve? "x" = some ⟨"templates/x.a:b"⟩ ∧
     s.templates.resolve? "x.a:b" = none) := by
  refine ⟨⟨rfl, ?_, ?_, ?_⟩, ⟨rfl, ?_, ?_, ?_, ?_, ?_⟩⟩
  all_goals decide +kernel

end PageTemplate.Loader
