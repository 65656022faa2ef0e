/-
The shape of a block.

A header fixes the lead, and the lead alone fixes where the block ends: a rating
line has to begin with it and a detail line has to begin with it, so a block
takes its first line and then the whole run of lines with its lead, however that
run is divided between ratings and detail.  `height_of_blockAt?` says so, and it
is the only thing that later arguments about where blocks lie need to know.
-/
import AnnotationLog.Annotation.Grammar
import AnnotationLog.Proofs.Text.Basic

namespace AnnotationLog.Grammar

variable {g : Grammar}

/-! ### The header -/

theorem mark_head_not_blank (d : Dialect) (rest : Text) :
    ∀ c ∈ (d.mark ++ rest).head?, Text.isBlank c = false := by
  intro c hc
  cases d <;>
    · simp only [Dialect.mark, List.cons_append, List.head?_cons, Option.mem_def,
        Option.some.injEq] at hc
      subst hc
      decide

/-- A line that is an indent, the mark and a rest opens an annotation when the rest is a label. -/
theorem header?_append {w : Text} (hw : ∀ c ∈ w, Text.isBlank c = true) (rest : Text) :
    g.header? (w ++ (g.dialect.mark ++ rest)) = (labelValue? g.keywords rest).map (w, ·) := by
  have hhead := mark_head_not_blank g.dialect rest
  simp only [header?]
  rw [Text.takeWhile_blank_append hw hhead, Text.dropWhile_blank_append hw hhead,
    Text.after?_append]

theorem header?_eq_some_iff {line w title : Text} :
    g.header? line = some (w, title) ↔
      (∀ c ∈ w, Text.isBlank c = true) ∧
        ∃ rest, line = w ++ (g.dialect.mark ++ rest) ∧
          labelValue? g.keywords rest = some title := by
  constructor
  · intro h
    simp only [header?] at h
    cases hmark : Text.after? g.dialect.mark (line.dropWhile Text.isBlank) with
    | none => simp [hmark] at h
    | some rest =>
        simp only [hmark, Option.map_eq_some_iff, Prod.mk.injEq] at h
        obtain ⟨value, hvalue, hw, htitle⟩ := h
        subst hw htitle
        refine ⟨Text.blank_of_mem_takeWhile, rest, ?_, hvalue⟩
        rw [← Text.after?_eq_some_iff.mp hmark, List.takeWhile_append_dropWhile]
  · rintro ⟨hw, rest, rfl, hvalue⟩
    rw [header?_append hw, hvalue]
    rfl

/-- On a line of blanks, a mark and a rest, the blanks are the indent of every header, and the
grammar's mark stands where the mark does. -/
theorem header?_of_indent {d : Dialect} {w rest w' title : Text}
    (hw : ∀ c ∈ w, Text.isBlank c = true)
    (h : g.header? (w ++ (d.mark ++ rest)) = some (w', title)) :
    w' = w ∧ ∃ rest', d.mark ++ rest = g.dialect.mark ++ rest' ∧
      labelValue? g.keywords rest' = some title := by
  obtain ⟨hw', rest', hline, hvalue⟩ := header?_eq_some_iff.mp h
  have hindent : w' = w := by
    rw [← Text.takeWhile_blank_append hw (mark_head_not_blank d rest), hline,
      Text.takeWhile_blank_append hw' (mark_head_not_blank _ _)]
  subst hindent
  exact ⟨rfl, rest', List.append_cancel_left hline, hvalue⟩

/-- The line of a header begins with the lead that the header gives. -/
theorem startsWith_of_header? {line w title : Text} (h : g.header? line = some (w, title)) :
    Text.startsWith (w ++ g.dialect.mark) line = true := by
  obtain ⟨-, rest, rfl, -⟩ := header?_eq_some_iff.mp h
  rw [← List.append_assoc]
  exact Text.startsWith_append _ _

/-! ### The ratings -/

theorem startsWith_of_rating? {lead line value : Text} {keywords : List Keyword}
    (h : rating? lead keywords line = some value) : Text.startsWith lead line = true := by
  unfold rating? at h
  split at h
  · rename_i rest hrest
    rw [Text.after?_eq_some_iff.mp hrest]
    exact Text.startsWith_append _ _
  · simp at h

/-- How many lines the ratings take. -/
def ratingLines (g : Grammar) : Nat := if g.rated then 2 else 0

/-- The ratings take lines with the lead, and as many as the grammar asks for. -/
theorem ratings?_split {lead : Text} {below rest : List Text} {quality impact : Option Text}
    (h : g.ratings? lead below = some (quality, impact, rest)) :
    ∃ top, below = top ++ rest ∧ top.length = g.ratingLines ∧
      ∀ line ∈ top, Text.startsWith lead line = true := by
  unfold ratings? at h
  unfold ratingLines
  split at h
  · split at h
    · rename_i hrated _ first second tail
      simp only [Option.bind_eq_bind, Option.pure_def, Option.bind_eq_some_iff,
        Option.some.injEq, Prod.mk.injEq] at h
      obtain ⟨q, hq, i, hi, -, -, hrest⟩ := h
      subst hrest
      refine ⟨[first, second], rfl, by simp [hrated], ?_⟩
      intro line hline
      rcases (by simpa using hline : line = first ∨ line = second) with hl | hl
      · rw [hl]; exact startsWith_of_rating? hq
      · rw [hl]; exact startsWith_of_rating? hi
    · simp at h
  · rename_i hrated
    simp only [Option.some.injEq, Prod.mk.injEq] at h
    exact ⟨[], by simp [h.2.2], by simp [hrated], by simp⟩

/-! ### The whole block -/

/-- What a block is made of: a header, the ratings if they are wanted, and the detail. -/
theorem blockAt?_eq_some_iff {line : Text} {below : List Text} {b : Block} :
    g.blockAt? (line :: below) = some b ↔
      ∃ indent title quality impact rest,
        g.header? line = some (indent, title) ∧
        g.ratings? (indent ++ g.dialect.mark) below = some (quality, impact, rest) ∧
        (g.detailRequired = true →
          rest.takeWhile (Text.startsWith (indent ++ g.dialect.mark)) ≠ []) ∧
        b = { fields := { indent, dialect := g.dialect, title, quality, impact,
                          detail := Text.unlines
                            (rest.takeWhile (Text.startsWith (indent ++ g.dialect.mark))) }
              height := 1 + g.ratingLines +
                (rest.takeWhile (Text.startsWith (indent ++ g.dialect.mark))).length } := by
  unfold ratingLines
  constructor
  · intro h
    simp only [blockAt?] at h
    split at h
    · simp at h
    · rename_i indent title hheader
      split at h
      · simp at h
      · rename_i quality impact rest hratings
        split at h
        · simp at h
        · rename_i hdetail
          refine ⟨indent, title, quality, impact, rest, hheader, hratings, ?_, ?_⟩
          · intro hreq hempty
            simp [hreq, hempty] at hdetail
          · simpa using h.symm
  · rintro ⟨indent, title, quality, impact, rest, hheader, hratings, hdetail, rfl⟩
    simp only [blockAt?, hheader, hratings]
    rw [if_neg]
    intro hc
    simp only [Bool.and_eq_true, List.isEmpty_iff] at hc
    exact hdetail hc.1 hc.2

theorem blockAt?_nil (g : Grammar) : g.blockAt? [] = none := rfl

/-- A block opens with a header whose lead is the block's. -/
theorem header?_of_blockAt? {line : Text} {below : List Text} {b : Block}
    (h : g.blockAt? (line :: below) = some b) :
    b.fields.dialect = g.dialect ∧ g.header? line = some (b.fields.indent, b.fields.title) := by
  obtain ⟨indent, title, quality, impact, rest, hheader, -, -, rfl⟩ := blockAt?_eq_some_iff.mp h
  exact ⟨rfl, hheader⟩

/-- The lead of a block is made of the header's indent and the grammar's mark. -/
theorem lead_of_blockAt? {ls : List Text} {b : Block} (h : g.blockAt? ls = some b) :
    b.fields.lead = b.fields.indent ++ g.dialect.mark := by
  cases ls with
  | nil => simp [blockAt?_nil] at h
  | cons line below => rw [Fields.lead, (header?_of_blockAt? h).1]

/-- The header, the ratings and the detail are one run of lines with the lead. -/
theorem length_run {line indent title : Text} {below rest : List Text}
    {quality impact : Option Text} (hheader : g.header? line = some (indent, title))
    (hratings : g.ratings? (indent ++ g.dialect.mark) below = some (quality, impact, rest)) :
    ((line :: below).takeWhile (Text.startsWith (indent ++ g.dialect.mark))).length =
      1 + g.ratingLines +
        (rest.takeWhile (Text.startsWith (indent ++ g.dialect.mark))).length := by
  obtain ⟨top, rfl, htop, hrun⟩ := ratings?_split hratings
  rw [List.takeWhile_cons_of_pos (startsWith_of_header? hheader),
    List.takeWhile_append_of_pos hrun]
  simp only [List.length_cons, List.length_append, htop]
  omega

/-- **A block takes the whole run of lines with its lead, the header's line included.** -/
theorem height_of_blockAt? {ls : List Text} {b : Block} (h : g.blockAt? ls = some b) :
    b.height = (ls.takeWhile (Text.startsWith b.fields.lead)).length := by
  cases ls with
  | nil => simp [blockAt?_nil] at h
  | cons line below =>
      have hlead := lead_of_blockAt? h
      obtain ⟨indent, title, quality, impact, rest, hheader, hratings, -, rfl⟩ :=
        blockAt?_eq_some_iff.mp h
      rw [hlead, length_run hheader hratings]

theorem height_pos_of_blockAt? {ls : List Text} {b : Block} (h : g.blockAt? ls = some b) :
    0 < b.height := by
  cases ls with
  | nil => simp [blockAt?_nil] at h
  | cons line below =>
      obtain ⟨indent, title, quality, impact, rest, -, -, -, rfl⟩ := blockAt?_eq_some_iff.mp h
      show 0 < 1 + _ + _
      omega

end AnnotationLog.Grammar
