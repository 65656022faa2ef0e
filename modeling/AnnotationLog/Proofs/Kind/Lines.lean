/-
The lines of an entry.

What an annotation captures is cut out of comments, and a comment may hold whatever
fits on a line.  But it is cut out line by line: neither a title nor a rating reaches
over a line end, and a detail of several lines is put into one.  So an entry has the
lines that its layout gives it, and no annotation can add one.

In a checklist every entry is a single line that shows at both ends.  The entries of a
checklist can therefore be read off its lines again, also after the white space around
the whole was trimmed.
-/
import AnnotationLog.Proofs.Annotation.Scan
import AnnotationLog.Proofs.Kind.Entry

namespace AnnotationLog

/-! ### What is captured -/

theorem isValue_of_trim {t : Text} (hline : '\n' ∉ t) (h : t ≠ [] ∧ Text.trim t = t) :
    IsValue t := by
  obtain ⟨hfirst, hlast⟩ := Text.trim_ends t
  rw [h.2] at hfirst hlast
  exact ⟨h.1, hline, hfirst, hlast⟩

/-- The title and the ratings of an annotation are values. -/
structure Fields.Captured (f : Fields) : Prop where
  title : IsValue f.title
  quality : ∀ q ∈ f.quality, IsValue q
  impact : ∀ q ∈ f.impact, IsValue q

/-- **Every annotation that is found captures values.** -/
theorem captured_of_mem_find {k : Kind} {text : Text} {f : Fields} (h : f ∈ k.find text) :
    f.Captured := by
  have hline : ∀ c, (∃ line ∈ Text.lines text, c ∈ line) → c ≠ '\n' := by
    intro c hc hnewline
    obtain ⟨line, hline, hmem⟩ := hc
    exact Text.newline_notMem_of_mem_lines hline (hnewline ▸ hmem)
  have hfrom := (find_from_lines h).mono hline
  obtain ⟨g, -, s, hs, rfl⟩ := exists_span_of_mem_find h
  have hblock : g.IsBlock (Text.lines text) s := Grammar.isBlock_of_mem_scanFrom rfl hs
  refine ⟨isValue_of_trim (fun hc => hfrom.title _ hc rfl) hblock.title_shown, ?_, ?_⟩
  · intro q hq
    exact isValue_of_trim (fun hc => hfrom.quality q hq _ hc rfl)
      (hblock.ratings_shown q (Or.inl hq))
  · intro q hq
    exact isValue_of_trim (fun hc => hfrom.impact q hq _ hc rfl)
      (hblock.ratings_shown q (Or.inr hq))

/-- Every assumption that is found has both ratings. -/
theorem ratings_of_mem_find {text : Text} {f : Fields}
    (h : f ∈ BuiltinKind.assumption.kind.find text) :
    ∃ quality impact, f.quality = some quality ∧ f.impact = some impact := by
  obtain ⟨g, hg, s, hs, rfl⟩ := exists_span_of_mem_find h
  obtain ⟨d, -, rfl⟩ := List.mem_map.mp hg
  have hblock := Grammar.isBlock_of_mem_scanFrom rfl hs
  obtain ⟨-, -, quality, impact, -, -, -, -, hquality, himpact⟩ := hblock.ratings
  exact ⟨quality, impact, hquality, himpact⟩

/-! ### Layouts -/

/-- How the entries of a kind are laid out. -/
inductive Layout where
  | checklist
  | heading
  | rated
  deriving DecidableEq, Repr

/-- The layout of a built-in kind. -/
def BuiltinKind.layout : BuiltinKind → Layout
  | assumption => .rated
  | caveat => .heading
  | debt => .heading
  | todo => .checklist

/-- The layout that the description of a custom kind asks for. -/
def EntryStyle.layout : EntryStyle → Layout
  | heading => .heading
  | checklist => .checklist

/-- A kind that a log can be given, with the layout of its entries. -/
inductive Kind.HasLayout : Kind → Layout → Prop
  | builtin (b : BuiltinKind) : HasLayout b.kind b.layout
  | custom {c : CustomKind} {k : Kind} (h : c.build = .ok k) : HasLayout k c.style.layout

/-- The text is an entry with the lines of a layout.  An entry of a checklist is one line, a box
with running text behind it.  A section has a heading, the location and, if there is one, the
detail; a rated section has both ratings and always a line for the detail. -/
def Layout.IsEntry (layout : Layout) (name : Text) (number : Nat) (path : Path) (f : Fields)
    (entry : Text) : Prop :=
  match layout with
  | .checklist =>
    '\n' ∉ entry ∧
      ∃ item, entry = "- [ ] ".toList ++ item ∧ item ≠ [] ∧ Text.IsRunning item
  | .heading =>
    entry.splitOn '\n' =
      [sectionHeading name number f.title, [], "Location: ".toList ++ Text.backquoted path, []] ++
        (if f.detailText = [] then [] else [f.detailText, []]) ++ [[]]
  | .rated =>
    ∃ quality impact, f.quality = some quality ∧ f.impact = some impact ∧
      entry.splitOn '\n' =
        [sectionHeading name number f.title, [], "* Location: ".toList ++ Text.backquoted path,
         "* **Quality**: ".toList ++ quality, "* **Impact**: ".toList ++ impact, [],
         f.detailText, [], []]

variable {name : Text} {number : Nat} {path : Path} {f : Fields}

/-! ### Checklists -/

/-- What a checklist entry puts together: the title and, if there is one, the detail. -/
def Fields.itemPieces (f : Fields) : List Text :=
  f.title :: if f.detailText = [] then [] else [f.detailText]

theorem checklistEntry_eq (f : Fields) :
    checklistEntry f =
      "- [ ] ".toList ++ Text.collapseSpaces (Text.trim (Text.join [' '] f.itemPieces)) := by
  unfold checklistEntry Fields.itemPieces
  by_cases h : f.detailText = []
  · simp [h, Text.join]
  · simp [h, Text.join, List.intercalate]

theorem isValue_of_mem_itemPieces (hf : IsValue f.title) :
    ∀ piece ∈ f.itemPieces, IsValue piece := by
  have hdetail := isRunning_cleanDetail f.lead f.detail
  unfold Fields.itemPieces
  by_cases h : f.detailText = []
  · simpa [h] using hf
  · simpa [h] using ⟨hf, ⟨h, hdetail.oneLine, hdetail.first, hdetail.last⟩⟩

theorem isEntry_checklistEntry (hf : f.Captured) :
    Layout.checklist.IsEntry name number path f (checklistEntry f) := by
  have hpieces := isValue_of_mem_itemPieces hf.title
  have hends := Text.join_ends [' '] hpieces
  have hline : '\n' ∉ Text.join [' '] f.itemPieces := by
    intro hc
    rcases Text.mem_join hc with hsep | ⟨piece, hpiece, hc⟩
    · exact absurd hsep (by decide)
    · exact (hpieces piece hpiece).oneLine hc
  have hrunning := Text.isRunning_collapseSpaces hline hends
  rw [checklistEntry_eq, Text.trim_eq_self hends.1 hends.2]
  refine ⟨?_, _, rfl, ?_, hrunning⟩
  · intro hc
    rcases List.mem_append.mp hc with hbox | hc
    · exact absurd hbox (by decide)
    · exact hrunning.oneLine hc
  · exact Text.collapseSpaces_ne_nil (Text.join_ne_nil _ hf.title.nonempty _)

/-- An entry of a checklist shows at both ends. -/
theorem isValue_of_isEntry {entry : Text} (h : Layout.checklist.IsEntry name number path f entry) :
    IsValue entry := by
  obtain ⟨hline, item, rfl, hne, hitem⟩ := h
  refine ⟨by simp, hline, ?_, ?_⟩
  · intro c hc
    obtain rfl : '-' = c := Option.some.inj hc
    decide
  · intro c hc
    rw [List.getLast?_append_of_ne_nil _ hne] at hc
    exact hitem.last c hc

theorem Text.splitOn_joinLines {ls : List Text} (hne : ls ≠ []) (h : ∀ line ∈ ls, '\n' ∉ line) :
    (joinLines ls).splitOn '\n' = ls :=
  List.splitOn_intercalate '\n' h hne

/-- Lines that show at both ends are read off again after the whole was trimmed. -/
theorem splitOn_trim_joinLines {entries : List Text} (hne : entries ≠ [])
    (h : ∀ entry ∈ entries, IsValue entry) :
    (Text.trim (Text.joinLines entries)).splitOn '\n' = entries := by
  have hends := Text.join_ends ['\n'] h
  rw [Text.joinLines, Text.trim_eq_self hends.1 hends.2]
  exact Text.splitOn_joinLines hne fun entry hentry => (h entry hentry).oneLine

/-! ### Sections -/

section

variable (hname : '\n' ∉ name) (hpath : '\n' ∉ path) (hf : f.Captured)

include hname hpath hf

theorem isEntry_headingEntry :
    Layout.heading.IsEntry name number path f (headingEntry name number path f) := by
  have hheading : '\n' ∉ sectionHeading name number f.title :=
    notMem_sectionHeading (by decide) (by decide) hname hf.title.oneLine number
  have hlocation : '\n' ∉ Text.backquoted path := by simpa [Text.backquoted] using hpath
  have hdetail : '\n' ∉ f.detailText := (isRunning_cleanDetail f.lead f.detail).oneLine
  unfold headingEntry
  by_cases h : f.detailText = []
  · simp only [Layout.IsEntry, h, List.isEmpty_nil, if_true]
    refine Text.splitOn_joinLines (by simp) ?_
    simpa using ⟨hheading, hlocation⟩
  · simp only [Layout.IsEntry, h, List.isEmpty_iff, if_false]
    refine Text.splitOn_joinLines (by simp) ?_
    simpa using ⟨hheading, hlocation, hdetail⟩

theorem isEntry_ratedEntry (hratings : ∃ quality impact, f.quality = some quality ∧
    f.impact = some impact) :
    Layout.rated.IsEntry name number path f (ratedEntry name number path f) := by
  obtain ⟨quality, impact, hquality, himpact⟩ := hratings
  have hheading : '\n' ∉ sectionHeading name number f.title :=
    notMem_sectionHeading (by decide) (by decide) hname hf.title.oneLine number
  have hlocation : '\n' ∉ Text.backquoted path := by simpa [Text.backquoted] using hpath
  have hdetail : '\n' ∉ f.detailText := (isRunning_cleanDetail f.lead f.detail).oneLine
  have hlineQ := (hf.quality quality hquality).oneLine
  have hlineI := (hf.impact impact himpact).oneLine
  refine ⟨quality, impact, hquality, himpact, ?_⟩
  unfold ratedEntry
  rw [hquality, himpact]
  refine Text.splitOn_joinLines (by simp) ?_
  simpa using ⟨hheading, hlocation, hlineQ, hlineI, hdetail⟩

end

/-! ### Kinds -/

theorem CustomKind.name_of_build {c : CustomKind} {k : Kind} (h : c.build = .ok k) :
    k.name = c.name := by
  unfold CustomKind.build at h
  split at h
  · simp at h
  · rw [← Except.ok.inj h]

/-- **A kind writes what it finds with the lines of its layout.** -/
theorem isEntry_render {k : Kind} {layout : Layout} (hk : k.HasLayout layout)
    (hname : '\n' ∉ k.name) {text : Text} (hfind : f ∈ k.find text) (hpath : '\n' ∉ path) :
    layout.IsEntry k.name number path f (k.render number path f) := by
  have hf := captured_of_mem_find hfind
  cases hk with
  | builtin b =>
      cases b with
      | assumption => exact isEntry_ratedEntry hname hpath hf (ratings_of_mem_find hfind)
      | caveat => exact isEntry_headingEntry hname hpath hf
      | debt => exact isEntry_headingEntry hname hpath hf
      | todo => exact isEntry_checklistEntry hf
  | @custom c _ hbuild =>
      rw [CustomKind.name_of_build hbuild] at hname ⊢
      rw [CustomKind.render_of_build hbuild, CustomKind.render]
      cases c.style with
      | heading => exact isEntry_headingEntry hname hpath hf
      | checklist => exact isEntry_checklistEntry hf

/-- **No annotation adds lines to its entry.**  Whatever a kind finds in whatever text, its entry
has the lines of the kind's layout, if neither the name of the kind nor the path has a line feed.
And the entries of a checklist are read off its lines again, also after the white space around the
whole was trimmed. -/
theorem entry_has_lines_of_layout {k : Kind} {layout : Layout} (hk : k.HasLayout layout)
    (hname : '\n' ∉ k.name) :
    (∀ text, ∀ f ∈ k.find text, ∀ (number : Nat) (path : Path), '\n' ∉ path →
      layout.IsEntry k.name number path f (k.render number path f)) ∧
    (layout = .checklist → ∀ entries : List Text, entries ≠ [] →
      (∀ entry ∈ entries, ∃ text, ∃ f ∈ k.find text, ∃ (number : Nat) (path : Path),
        '\n' ∉ path ∧ entry = k.render number path f) →
      (Text.trim (Text.joinLines entries)).splitOn '\n' = entries) := by
  constructor
  · intro text f hfind number path hpath
    exact isEntry_render hk hname hfind hpath
  · intro hchecklist entries hne hentries
    refine splitOn_trim_joinLines hne ?_
    intro entry hentry
    obtain ⟨text, f, hfind, number, path, hpath, rfl⟩ := hentries entry hentry
    have hshape : layout.IsEntry k.name number path f (k.render number path f) :=
      isEntry_render hk hname hfind hpath
    rw [hchecklist] at hshape
    exact isValue_of_isEntry hshape

/-- Things to do with carriage returns, runs of spaces and an empty comment line, and an assumption
with nothing in its detail. -/
theorem entry_has_lines_of_layout_crowded :
    let todo := BuiltinKind.todo.kind
    let assumption := BuiltinKind.assumption.kind
    let todos := "# Todo: a \r b\r\n#   c \n#\n\n// to-do: e\n".toList
    let assumptions := "#' Assume: x\n#' Q: low \r high\n#' I: y\n#'\n".toList
    let entries := ["- [ ] a \r b c".toList, "- [ ] e".toList]
    (todo.find todos).map (todo.render 1 []) = entries ∧
      (Text.trim (Text.joinLines entries)).splitOn '\n' = entries ∧
      (assumption.find assumptions).map Fields.detailText = [[]] ∧
      ∀ f ∈ assumption.find assumptions, Layout.rated.IsEntry assumption.name 3 "a/b.R".toList f
        (assumption.render 3 "a/b.R".toList f) := by
  intro todo assumption todos assumptions entries
  have hentries : (todo.find todos).map (todo.render 1 []) = entries := by
    rw [Kind.find, matchGrammars_eq_map_readOnce (apostropheFree_builtin .todo)]
    decide +kernel
  obtain ⟨-, hlines⟩ := entry_has_lines_of_layout (.builtin .todo) (by decide)
  obtain ⟨hrated, -⟩ := entry_has_lines_of_layout (.builtin .assumption) (by decide)
  refine ⟨hentries, hlines rfl entries (by simp [entries]) ?_, ?_, ?_⟩
  · intro entry hentry
    rw [← hentries] at hentry
    obtain ⟨f, hf, rfl⟩ := List.mem_map.mp hentry
    exact ⟨todos, f, hf, 1, [], by simp, rfl⟩
  · rw [Kind.find, matchGrammars_eq_map_readOnce (apostropheFree_builtin .assumption)]
    decide +kernel
  · intro f hf
    exact hrated assumptions f hf 3 "a/b.R".toList (by decide)

end AnnotationLog
