/-
A scan takes exactly the complete blocks.

What a complete block is can be said of the numbered lines of a text alone: which
line opens it, which lines hold the ratings, and that the lines with the lead run
up to the end of the block and no further.  `IsBlock` says it, without a word on
how a block is looked for.

The scan has three ways to pass over a header and one to jump over a block.  What
it keeps from line to line is that it stands behind every block it has taken and
has missed none before, so the blocks it takes come one behind the other, and a
complete block is left out only if it opens inside one that is taken.
-/
import AnnotationLog.Proofs.Annotation.OnePass
import AnnotationLog.Proofs.Annotation.Spelling
import AnnotationLog.Proofs.Annotation.Written

namespace AnnotationLog

/-! ### Runs of lines -/

/-- How long the run at the front of some lines is: all its lines have the property, and the line
behind it, if there is one, has not. -/
theorem length_takeWhile_eq_iff {p : Text → Bool} {ls : List Text} {n : Nat} :
    (ls.takeWhile p).length = n ↔
      n ≤ ls.length ∧ (∀ i line, i < n → ls[i]? = some line → p line = true) ∧
        ∀ line, ls[n]? = some line → p line = false := by
  induction ls generalizing n with
  | nil =>
      simp only [List.takeWhile_nil, List.length_nil, List.getElem?_nil]
      constructor
      · intro h
        subst h
        simp
      · intro h
        omega
  | cons first below ih =>
      by_cases hfirst : p first = true
      · rw [List.takeWhile_cons_of_pos hfirst, List.length_cons]
        cases n with
        | zero => simp [hfirst]
        | succ n =>
            rw [Nat.add_right_cancel_iff, ih, List.length_cons, Nat.add_le_add_iff_right,
              List.getElem?_cons_succ]
            refine and_congr_right fun _ => and_congr_left fun _ => ⟨?_, ?_⟩
            · intro h i line hi hline
              cases i with
              | zero =>
                  obtain rfl : first = line := by simpa using hline
                  exact hfirst
              | succ i => exact h i line (by omega) (by simpa using hline)
            · intro h i line hi hline
              exact h (i + 1) line (by omega) (by simpa using hline)
      · rw [List.takeWhile_cons_of_neg hfirst, List.length_nil]
        constructor
        · intro h
          subst h
          simpa using hfirst
        · rintro ⟨-, hrun, -⟩
          by_contra hn
          exact hfirst (hrun 0 first (by omega) rfl)

theorem takeWhile_eq_take {p : Text → Bool} {ls : List Text} {n : Nat}
    (h : (ls.takeWhile p).length = n) : ls.takeWhile p = ls.take n := by
  rw [← h]
  exact List.prefix_iff_eq_take.mp (List.takeWhile_prefix p)

namespace Grammar

variable {g : Grammar}

/-! ### Complete blocks -/

/-- A line that rates: the lead, and behind it the label of a keyword with its value. -/
def IsRating (lead : Text) (keywords : List Keyword) (line value : Text) : Prop :=
  ∃ k ∈ keywords, ∃ l : Label k.words, line = lead ++ l.text ∧ value = Text.trim l.value

/-- The ratings of a block, of which line `n` and the next hold the quality and the impact if the
grammar is rated. -/
def HasRatings (g : Grammar) (lead : Text) (lines : List Text) (n : Nat)
    (quality impact : Option Text) : Prop :=
  if g.rated then
    ∃ first second q i, lines[n]? = some first ∧ lines[n + 1]? = some second ∧
      IsRating lead qualityKeywords first q ∧ IsRating lead impactKeywords second i ∧
      quality = some q ∧ impact = some i
  else quality = none ∧ impact = none

/-- The lines from `s.start` up to `s.stop` are a complete block, and `s.fields` is what it
captures. -/
structure IsBlock (g : Grammar) (lines : List Text) (s : Span) : Prop where
  header : ∃ line, lines[s.start]? = some line ∧
    g.header? line = some (s.fields.indent, s.fields.title)
  dialect : s.fields.dialect = g.dialect
  start_lt_stop : s.start < s.stop
  stop_le : s.stop ≤ lines.length
  lead : ∀ i line, s.start < i → i < s.stop → lines[i]? = some line →
    s.fields.indent ++ g.dialect.mark <+: line
  maximal : ∀ line, lines[s.stop]? = some line → ¬ s.fields.indent ++ g.dialect.mark <+: line
  ratings : g.HasRatings (s.fields.indent ++ g.dialect.mark) lines (s.start + 1)
    s.fields.quality s.fields.impact
  detail : s.fields.detail =
    Text.unlines ((lines.take s.stop).drop (s.start + 1 + g.ratingLines))
  required : g.detailRequired = true → s.fields.detail ≠ []

theorem rating?_eq_some_iff {lead line value : Text} {keywords : List Keyword}
    (hplain : ∀ k ∈ keywords, k.Plain) :
    rating? lead keywords line = some value ↔ IsRating lead keywords line value := by
  unfold rating? IsRating
  constructor
  · intro h
    split at h
    · rename_i rest hrest
      obtain ⟨k, hk, l, rfl, rfl⟩ := (labelValue?_eq_some_iff hplain).mp h
      exact ⟨k, hk, l, Text.after?_eq_some_iff.mp hrest, rfl⟩
    · simp at h
  · rintro ⟨k, hk, l, rfl, rfl⟩
    rw [Text.after?_append]
    exact (labelValue?_eq_some_iff hplain).mpr ⟨k, hk, l, rfl, rfl⟩

theorem ratings?_eq_some_iff {lead : Text} {below rest : List Text}
    {quality impact : Option Text} :
    g.ratings? lead below = some (quality, impact, rest) ↔
      g.HasRatings lead below 0 quality impact ∧ rest = below.drop g.ratingLines := by
  unfold ratings? HasRatings ratingLines
  by_cases hrated : g.rated = true
  · simp only [if_pos hrated]
    constructor
    · intro h
      split at h
      · rename_i first second tail
        simp only [Option.bind_eq_bind, Option.pure_def, Option.bind_eq_some_iff,
          Option.some.injEq, Prod.mk.injEq] at h
        obtain ⟨q, hq, i, hi, rfl, rfl, rfl⟩ := h
        rw [rating?_eq_some_iff plain_ratingKeywords.1] at hq
        rw [rating?_eq_some_iff plain_ratingKeywords.2] at hi
        exact ⟨⟨first, second, q, i, rfl, rfl, hq, hi, rfl, rfl⟩, rfl⟩
      · simp at h
    · rintro ⟨⟨first, second, q, i, hfirst, hsecond, hq, hi, rfl, rfl⟩, rfl⟩
      obtain ⟨tail, rfl⟩ : ∃ tail, below = first :: second :: tail := by
        match below, hfirst, hsecond with
        | _ :: _ :: tail, hfirst, hsecond =>
            simp only [List.getElem?_cons_zero, List.getElem?_cons_succ,
              Option.some.injEq] at hfirst hsecond
            exact ⟨tail, by rw [hfirst, hsecond]⟩
      rw [← rating?_eq_some_iff plain_ratingKeywords.1] at hq
      rw [← rating?_eq_some_iff plain_ratingKeywords.2] at hi
      simp [hq, hi]
  · simp only [if_neg hrated, Option.some.injEq, Prod.mk.injEq, List.drop_zero]
    constructor
    · rintro ⟨rfl, rfl, rfl⟩
      exact ⟨⟨rfl, rfl⟩, rfl⟩
    · rintro ⟨⟨rfl, rfl⟩, rfl⟩
      exact ⟨rfl, rfl, rfl⟩

/-- The ratings are read at the same lines, whether one counts from the top or from the header. -/
theorem hasRatings_drop {lead line : Text} {lines below : List Text} {n : Nat}
    {quality impact : Option Text} (hdrop : lines.drop n = line :: below) :
    g.HasRatings lead below 0 quality impact ↔ g.HasRatings lead lines (n + 1) quality impact := by
  have hline : ∀ i, below[i]? = lines[n + 1 + i]? := by
    intro i
    rw [show n + 1 + i = n + (i + 1) by omega, ← List.getElem?_drop, hdrop,
      List.getElem?_cons_succ]
  unfold HasRatings
  rw [hline, hline]

/-- The lines with a lead, counted from the top of the text. -/
theorem length_run_drop_iff {lead first : Text} {lines : List Text} {start stop : Nat}
    (hfirst : lines[start]? = some first) (hlead : Text.startsWith lead first = true)
    (hlt : start < stop) :
    ((lines.drop start).takeWhile (Text.startsWith lead)).length = stop - start ↔
      stop ≤ lines.length ∧
        (∀ i line, start < i → i < stop → lines[i]? = some line → lead <+: line) ∧
        ∀ line, lines[stop]? = some line → ¬ lead <+: line := by
  have hlen : start < lines.length := (List.getElem?_eq_some_iff.mp hfirst).1
  rw [length_takeWhile_eq_iff, List.length_drop, List.getElem?_drop,
    show start + (stop - start) = stop by omega]
  simp only [List.getElem?_drop, ← Text.startsWith_iff, Bool.not_eq_true]
  refine and_congr (by omega) (and_congr_left fun _ => ⟨?_, ?_⟩)
  · intro h i line hi histop hline
    refine h (i - start) line (by omega) ?_
    rw [show start + (i - start) = i by omega, hline]
  · intro h j line hj hline
    cases j with
    | zero =>
        rw [Nat.add_zero, hfirst, Option.some.injEq] at hline
        exact hline ▸ hlead
    | succ j => exact h (start + (j + 1)) line (by omega) (by omega) hline

theorem takeWhile_drop {p : Text → Bool} {lines : List Text} {n : Nat} :
    (lines.drop n).takeWhile p =
      (lines.take (n + ((lines.drop n).takeWhile p).length)).drop n := by
  rw [List.drop_take, Nat.add_sub_cancel_left]
  exact takeWhile_eq_take rfl

/-- The detail of a block is cut out of the lines of the text. -/
theorem detailLines_eq {line indent title : Text} {lines below rest : List Text}
    {quality impact : Option Text} {start : Nat} (hdrop : lines.drop start = line :: below)
    (hheader : g.header? line = some (indent, title))
    (hratings : g.ratings? (indent ++ g.dialect.mark) below = some (quality, impact, rest)) :
    rest.takeWhile (Text.startsWith (indent ++ g.dialect.mark)) =
      (lines.take (start + ((line :: below).takeWhile
        (Text.startsWith (indent ++ g.dialect.mark))).length)).drop (start + 1 + g.ratingLines) := by
  have hrest : rest = lines.drop (start + 1 + g.ratingLines) := by
    rw [(ratings?_eq_some_iff.mp hratings).2, Nat.add_assoc, ← List.drop_drop, hdrop,
      Nat.add_comm 1, List.drop_succ_cons]
  rw [length_run hheader hratings, hrest, ← Nat.add_assoc, ← Nat.add_assoc]
  exact takeWhile_drop

/-- **A complete block is recognised at its first line.** -/
theorem IsBlock.blockAt?_eq {lines : List Text} {s : Span} (h : g.IsBlock lines s) :
    g.blockAt? (lines.drop s.start) =
      some { fields := s.fields, height := s.stop - s.start } := by
  obtain ⟨line, hline, hheader⟩ := h.header
  obtain ⟨below, hdrop⟩ : ∃ below, lines.drop s.start = line :: below := by
    rw [← List.head?_drop] at hline
    exact List.head?_eq_some_iff.mp hline
  have hratings := ratings?_eq_some_iff.mpr ⟨(hasRatings_drop hdrop).mpr h.ratings, rfl⟩
  have hrun := (length_run_drop_iff hline (startsWith_of_header? hheader) h.start_lt_stop).mpr
    ⟨h.stop_le, h.lead, h.maximal⟩
  rw [hdrop] at hrun
  have hlt := h.start_lt_stop
  -- The block ends where the run does, so its detail is the part of the run below the ratings.
  have hdetail := h.detail
  rw [show s.stop = s.start + (s.stop - s.start) by omega, ← hrun,
    ← detailLines_eq hdrop hheader hratings] at hdetail
  rw [hdrop]
  refine blockAt?_eq_some_iff.mpr ⟨_, _, _, _, _, hheader, hratings, ?_, ?_⟩
  · intro hrequired
    rw [ne_eq, ← Text.unlines_eq_nil_iff, ← hdetail]
    exact h.required hrequired
  · rw [← hdetail, ← length_run hheader hratings, hrun, ← h.dialect]

/-- **What is recognised at a line is a complete block.**  The run of lines with the lead fixes
where it ends, and the ratings and the detail share that run. -/
theorem isBlock_of_blockAt? {lines : List Text} {start : Nat} {b : Block}
    (h : g.blockAt? (lines.drop start) = some b) :
    g.IsBlock lines { start, stop := start + b.height, fields := b.fields } := by
  obtain ⟨line, below, hdrop⟩ : ∃ line below, lines.drop start = line :: below := by
    refine List.exists_cons_of_ne_nil ?_
    intro hnil
    simp [hnil, blockAt?_nil] at h
  have hpos := height_pos_of_blockAt? h
  have hline : lines[start]? = some line := by
    rw [← List.head?_drop, hdrop]
    rfl
  rw [hdrop] at h
  obtain ⟨indent, title, quality, impact, rest, hheader, hratings, hrequired, rfl⟩ :=
    blockAt?_eq_some_iff.mp h
  have hrun := length_run hheader hratings
  obtain ⟨hle, hlead, hmaximal⟩ := (length_run_drop_iff hline (startsWith_of_header? hheader)
    (Nat.lt_add_of_pos_right hpos)).mp (by rw [hdrop, hrun, Nat.add_sub_cancel_left])
  refine ⟨⟨line, hline, hheader⟩, rfl, Nat.lt_add_of_pos_right hpos, hle, hlead, hmaximal,
    (hasRatings_drop hdrop).mp (ratings?_eq_some_iff.mp hratings).1, ?_, ?_⟩
  · have hdetail := detailLines_eq hdrop hheader hratings
    rw [hrun] at hdetail
    exact congrArg Text.unlines hdetail
  · intro h
    exact Text.unlines_eq_nil_iff.not.mpr (hrequired h)

/-! ### The scan -/

variable {start : Nat} {lines ls : List Text}

theorem pairwise_scanFrom (g : Grammar) (start : Nat) (ls : List Text) :
    (g.scanFrom start ls).Pairwise fun a b => a.stop ≤ b.start := by
  fun_induction g.scanFrom start ls with
  | case1 => exact List.Pairwise.nil
  | case2 start line below b hb ih =>
      refine List.Pairwise.cons ?_ ih
      intro s hs
      exact (start_le_of_mem_scanFrom hs).1
  | case3 start line below hb ih => exact ih

/-- Behind a block the scan stands at the lines that come behind it in the text. -/
theorem drop_behind {line : Text} {below : List Text} {b : Block}
    (hls : lines.drop start = line :: below) (hb : g.blockAt? (line :: below) = some b) :
    lines.drop (start + b.height) = below.drop (b.height - 1) := by
  rw [drop_height hb, ← hls, List.drop_drop]

theorem drop_next {line : Text} {below : List Text} (hls : lines.drop start = line :: below) :
    lines.drop (start + 1) = below := by
  rw [← List.drop_drop, hls, List.drop_one, List.tail_cons]

theorem isBlock_of_mem_scanFrom {s : Span} (hls : lines.drop start = ls)
    (h : s ∈ g.scanFrom start ls) : g.IsBlock lines s := by
  fun_induction g.scanFrom start ls with
  | case1 => simp at h
  | case2 start line below b hb ih =>
      rcases List.mem_cons.mp h with rfl | hrest
      · exact isBlock_of_blockAt? (hls ▸ hb)
      · exact ih (drop_behind hls hb) hrest
  | case3 start line below hb ih => exact ih (drop_next hls) h

/-- A complete block that does not open before the line at which the scan is entered is taken, or
it opens inside one that is. -/
theorem mem_scanFrom_of_isBlock {s : Span} (hls : lines.drop start = ls)
    (h : g.IsBlock lines s) (hstart : start ≤ s.start) :
    s ∈ g.scanFrom start ls ∨ ∃ t ∈ g.scanFrom start ls, t.start < s.start ∧ s.start < t.stop := by
  have hb' := h.blockAt?_eq
  have hlt := h.start_lt_stop
  fun_induction g.scanFrom start ls with
  | case1 start =>
      -- the lines are at their end, and no block opens there
      have hlen : lines.length ≤ start := List.drop_eq_nil_iff.mp hls
      rw [List.drop_eq_nil_of_le (by omega), blockAt?_nil] at hb'
      simp at hb'
  | case2 start line below b hb ih =>
      rcases Nat.eq_or_lt_of_le hstart with heq | hbefore
      · left
        rw [← heq, hls, hb, Option.some.injEq] at hb'
        subst hb'
        rw [heq, Nat.add_sub_of_le (Nat.le_of_lt hlt)]
        exact List.mem_cons_self
      · by_cases hinside : s.start < start + b.height
        · exact Or.inr ⟨_, List.mem_cons_self, hbefore, hinside⟩
        · rcases ih (drop_behind hls hb) (by omega) with hmem | ⟨t, ht, hin⟩
          · exact Or.inl (List.mem_cons_of_mem _ hmem)
          · exact Or.inr ⟨t, List.mem_cons_of_mem _ ht, hin⟩
  | case3 start line below hb ih =>
      rcases Nat.eq_or_lt_of_le hstart with heq | hbefore
      · rw [← heq, hls, hb] at hb'
        simp at hb'
      · exact ih (drop_next hls) hbefore

/-! ### What is captured is trimmed -/

theorem shown_of_labelValue? {keywords : List Keyword} {t value : Text}
    (h : labelValue? keywords t = some value) : value ≠ [] ∧ Text.trim value = value := by
  obtain ⟨k, -, hk⟩ := List.exists_of_findSome?_eq_some h
  obtain ⟨rest, -, hvalue⟩ := Option.bind_eq_some_iff.mp hk
  obtain ⟨gap, shown, -, -, hshows, rfl⟩ := valueAfterColon?_eq_some_iff.mp hvalue
  exact hshows.trim

theorem IsBlock.title_shown {s : Span} (h : g.IsBlock lines s) :
    s.fields.title ≠ [] ∧ Text.trim s.fields.title = s.fields.title := by
  obtain ⟨line, -, hheader⟩ := h.header
  obtain ⟨-, rest, -, hvalue⟩ := header?_eq_some_iff.mp hheader
  exact shown_of_labelValue? hvalue

theorem IsRating.shown {lead line value : Text} {keywords : List Keyword}
    (h : IsRating lead keywords line value) : value ≠ [] ∧ Text.trim value = value := by
  obtain ⟨k, -, l, -, rfl⟩ := h
  exact l.value_shows.trim

theorem IsBlock.ratings_shown {s : Span} (h : g.IsBlock lines s) :
    ∀ v, s.fields.quality = some v ∨ s.fields.impact = some v → v ≠ [] ∧ Text.trim v = v := by
  have hratings := h.ratings
  unfold HasRatings at hratings
  intro v hv
  split at hratings
  · obtain ⟨first, second, q, i, -, -, hq, hi, hquality, himpact⟩ := hratings
    rw [hquality, himpact, Option.some.injEq, Option.some.injEq] at hv
    rcases hv with rfl | rfl
    · exact hq.shown
    · exact hi.shown
  · rw [hratings.1, hratings.2] at hv
    simp at hv

end Grammar

/-- **A scan takes the complete blocks, one behind the other, and leaves out only those that open
inside one it has taken.**  Titles and ratings are trimmed and not empty. -/
theorem scan_takes_complete_blocks (g : Grammar) (text : Text) :
    (g.scan text).Pairwise (fun a b => a.stop ≤ b.start) ∧
    (∀ s ∈ g.scan text, g.IsBlock (Text.lines text) s ∧
      (s.fields.title ≠ [] ∧ Text.trim s.fields.title = s.fields.title) ∧
      ∀ v, s.fields.quality = some v ∨ s.fields.impact = some v → v ≠ [] ∧ Text.trim v = v) ∧
    ∀ s, g.IsBlock (Text.lines text) s →
      s ∈ g.scan text ∨ ∃ t ∈ g.scan text, t.start < s.start ∧ s.start < t.stop := by
  refine ⟨g.pairwise_scanFrom 0 _, ?_, ?_⟩
  · intro s hs
    have hblock : g.IsBlock (Text.lines text) s := Grammar.isBlock_of_mem_scanFrom rfl hs
    exact ⟨hblock, hblock.title_shown, hblock.ratings_shown⟩
  · intro s hblock
    exact Grammar.mem_scanFrom_of_isBlock rfl hblock (Nat.zero_le _)

/-- A header whose ratings are cut short is passed over, and a complete block that opens in the
detail of another is not taken. -/
theorem scan_takes_complete_blocks_nested :
    let g : Grammar := { dialect := .hash, keywords := [⟨["risk".toList]⟩], rated := true
                         detailRequired := true }
    let text :=
      "# Risk: cut\n# q: x\n# Risk: outer\n# Q: x \n# i : y\n# Risk: inner\n# q: a\n# i: b\n##\n".toList
    let inner : Span := { start := 5, stop := 9
                          fields := { indent := [], dialect := .hash, title := "inner".toList
                                      quality := some ['a'], impact := some ['b']
                                      detail := "##\n".toList } }
    g.IsBlock (Text.lines text) inner ∧
      (g.scan text).map (fun s => (s.start, s.stop, s.fields.title)) =
        [(2, 9, "outer".toList)] ∧
      ∃ t ∈ g.scan text, t.start < inner.start ∧ inner.start < t.stop := by
  intro g text inner
  have hinner : g.IsBlock (Text.lines text) inner :=
    @Grammar.isBlock_of_blockAt? g _ 5 ⟨inner.fields, 4⟩ (by decide +kernel)
  have hscan : (g.scan text).map (fun s => (s.start, s.stop, s.fields.title)) =
      [(2, 9, "outer".toList)] := by
    decide +kernel
  refine ⟨hinner, hscan, ?_⟩
  refine ((scan_takes_complete_blocks g text).2.2 inner hinner).resolve_left ?_
  intro hmem
  have hstart := List.mem_map_of_mem (f := fun s => (s.start, s.stop, s.fields.title)) hmem
  rw [hscan] at hstart
  exact absurd hstart (by decide)

end AnnotationLog
