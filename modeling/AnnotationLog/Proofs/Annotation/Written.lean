/-
Extraction undoes writing.

An annotation is written as one expects: the header with its keyword, the two
ratings where the kind has them, the detail line by line, all behind the same
indent and mark, and an empty line at the end.  Whatever the detail says, even if
it looks like a header of the same or of another dialect, finding annotations in
such a text gives back what was written, in order.

The argument rests on the single pass of `Proofs/Annotation/OnePass.lean`.  It
stops at the header of an annotation, where only the grammar of its own dialect
has a block; the block reaches exactly to the empty line; and no block opens
there.
-/
import AnnotationLog.Proofs.Annotation.OnePass
import AnnotationLog.Proofs.Text.Line

namespace AnnotationLog

/-! ### The keywords of the built-in kinds -/

theorem Dialect.mark_injective {d d' : Dialect} (h : d.mark = d'.mark) : d = d' := by
  cases d <;> cases d' <;> simp [mark] at h ⊢

instance (k : Keyword) : Decidable k.Plain :=
  decidable_of_iff
    (k.words ≠ [] ∧ (∀ w ∈ k.words, w ≠ []) ∧
      (∀ w ∈ k.words, w.all (!Text.isBlank ·) = true) ∧ ∀ w ∈ k.words, ':' ∉ w) <| by
    have hblank : (∀ w ∈ k.words, w.all (!Text.isBlank ·) = true) ↔
        ∀ w ∈ k.words, ∀ c ∈ w, Text.isBlank c = false := by
      simp
    rw [hblank]
    exact ⟨fun ⟨h₁, h₂, h₃, h₄⟩ => ⟨h₁, h₂, h₃, h₄⟩, fun ⟨h₁, h₂, h₃, h₄⟩ => ⟨h₁, h₂, h₃, h₄⟩⟩

theorem plain_keywords (b : BuiltinKind) : ∀ k ∈ readKeywords b.keywords, k.Plain := by
  cases b <;> decide +kernel

theorem plain_ratingKeywords :
    (∀ k ∈ qualityKeywords, k.Plain) ∧ ∀ k ∈ impactKeywords, k.Plain := by
  decide

/-- Every keyword of a kind is written as its words with a space between any two. -/
theorem keyword_of_text (b : BuiltinKind) :
    ∀ t ∈ b.keywords, ∃ k ∈ readKeywords b.keywords, Text.join [' '] k.words = t := by
  cases b <;> decide +kernel

theorem keyword_no_break {b : BuiltinKind} {t : Text} (h : t.map Char.toLower ∈ b.keywords) :
    '\n' ∉ t ∧ '\r' ∉ t := by
  have hall : ∀ t ∈ b.keywords, '\n' ∉ t ∧ '\r' ∉ t := by
    cases b <;> decide
  obtain ⟨hn, hr⟩ := hall _ h
  exact ⟨fun hc => hn (List.mem_map.mpr ⟨_, hc, by decide⟩),
    fun hc => hr (List.mem_map.mpr ⟨_, hc, by decide⟩)⟩

/-! ### Annotations as they are written -/

/-- An annotation of a built-in kind as it is written. -/
structure Written (b : BuiltinKind) where
  indent : Text
  dialect : Dialect
  keyword : Text
  title : Text
  /-- Quality and impact. -/
  ratings : Option (Text × Text)
  detail : List Text
  indent_blank : ∀ c ∈ indent, Text.isBlank c = true
  /-- The keyword is one of the kind's in any case. -/
  keyword_mem : keyword.map Char.toLower ∈ b.keywords
  title_value : IsValue title
  ratings_isSome : ratings.isSome = b.rated
  ratings_value : ∀ r ∈ ratings, IsValue r.1 ∧ IsValue r.2
  detail_line : ∀ d ∈ detail, Text.IsLine d
  detail_ne : b.rated = true → detail ≠ []

namespace Written

variable {b : BuiltinKind}

/-- What every line begins with. -/
def lead (w : Written b) : Text :=
  w.indent ++ w.dialect.mark

/-- A line with a label and its value. -/
def labelled (w : Written b) (label value : Text) : Text :=
  w.lead ++ ' ' :: (label ++ ':' :: ' ' :: value)

/-- The lines of the ratings. -/
def ratingLines (w : Written b) : List Text :=
  match w.ratings with
  | some (quality, impact) =>
    [w.labelled "Quality".toList quality, w.labelled "Impact".toList impact]
  | none => []

/-- The lines of the detail. -/
def detailLines (w : Written b) : List Text :=
  w.detail.map (w.lead ++ ·)

/-- The lines of the annotation. -/
def lines (w : Written b) : List Text :=
  w.labelled w.keyword w.title :: (w.ratingLines ++ w.detailLines)

/-- The annotation with the empty line behind it. -/
def text (w : Written b) : Text :=
  Text.unlines (w.lines ++ [[]])

/-- What is to be found of the annotation. -/
def fields (w : Written b) : Fields where
  indent := w.indent
  dialect := w.dialect
  title := w.title
  quality := w.ratings.map Prod.fst
  impact := w.ratings.map Prod.snd
  detail := Text.unlines w.detailLines

/-! ### Every line is a line -/

theorem lead_ne_nil (w : Written b) : w.lead ≠ [] := by
  unfold lead
  cases w.dialect <;> simp [Dialect.mark]

theorem isLine_append {t u : Text} (ht : '\n' ∉ t ∧ '\r' ∉ t) (hu : Text.IsLine u) :
    Text.IsLine (t ++ u) := by
  refine ⟨?_, ?_⟩
  · rw [List.mem_append, not_or]
    exact ⟨ht.1, hu.1⟩
  · rw [List.getLast?_append]
    cases hlast : u.getLast? with
    | none =>
        intro hc
        exact ht.2 (List.mem_of_getLast? (by simpa using hc))
    | some c => simpa [hlast] using hu.2

theorem isLine_of_value {t : Text} (ht : IsValue t) : Text.IsLine t := by
  refine ⟨ht.oneLine, ?_⟩
  intro hc
  have := ht.last _ hc
  exact absurd this (by decide)

theorem lead_no_break (w : Written b) : '\n' ∉ w.lead ∧ '\r' ∉ w.lead := by
  have hindent : ∀ c ∈ w.indent, c ≠ '\n' ∧ c ≠ '\r' := by
    intro c hc
    have := w.indent_blank c hc
    constructor <;> rintro rfl <;> exact absurd this (by decide)
  have hmark : '\n' ∉ w.dialect.mark ∧ '\r' ∉ w.dialect.mark := by
    cases w.dialect <;> decide
  simp only [lead, List.mem_append, not_or]
  exact ⟨⟨fun h => (hindent _ h).1 rfl, hmark.1⟩, ⟨fun h => (hindent _ h).2 rfl, hmark.2⟩⟩

/-- No line of an annotation holds a line break. -/
theorem isLine_of_mem_lines (w : Written b) {line : Text} (h : line ∈ w.lines) :
    Text.IsLine line := by
  have hlabelled : ∀ label value : Text, '\n' ∉ label ∧ '\r' ∉ label → IsValue value →
      Text.IsLine (w.labelled label value) := by
    intro label value hlabel hvalue
    have hfront : '\n' ∉ w.lead ++ ' ' :: (label ++ [':', ' ']) ∧
        '\r' ∉ w.lead ++ ' ' :: (label ++ [':', ' ']) := by
      simp [w.lead_no_break, hlabel]
    simpa [labelled] using isLine_append hfront (isLine_of_value hvalue)
  rcases List.mem_cons.mp h with rfl | h
  · exact hlabelled _ _ (keyword_no_break w.keyword_mem) w.title_value
  rcases List.mem_append.mp h with h | h
  · have hvalue := w.ratings_value
    unfold ratingLines at h
    split at h
    · rename_i quality impact hratings
      obtain ⟨hquality, himpact⟩ := hvalue _ hratings
      rcases (by simpa using h : line = _ ∨ line = _) with rfl | rfl
      · exact hlabelled _ _ (by decide) hquality
      · exact hlabelled _ _ (by decide) himpact
    · simp at h
  · obtain ⟨d, hd, rfl⟩ := List.mem_map.mp h
    exact isLine_append w.lead_no_break (w.detail_line d hd)

/-! ### Its own grammar takes exactly the annotation -/

/-- The grammar of the kind for the dialect in which the annotation is written. -/
def grammar (w : Written b) : Grammar where
  dialect := w.dialect
  keywords := readKeywords b.keywords
  rated := b.rated
  detailRequired := b.rated

theorem grammar_mem (w : Written b) : w.grammar ∈ b.kind.grammars := by
  refine List.mem_map.mpr ⟨w.dialect, ?_, rfl⟩
  cases w.dialect <;> decide

theorem header?_grammar (w : Written b) :
    w.grammar.header? (w.labelled w.keyword w.title) = some (w.indent, w.title) := by
  obtain ⟨k, hk, hwords⟩ := keyword_of_text b _ w.keyword_mem
  have hlabel := labelValue?_written (plain_keywords b) hk hwords.symm w.title_value
  rw [labelled, lead, List.append_assoc]
  exact (Grammar.header?_append w.indent_blank _).trans (by rw [grammar, hlabel]; rfl)

theorem rating?_labelled (w : Written b) {keywords : List Keyword}
    (hplain : ∀ k ∈ keywords, k.Plain) {k : Keyword} (hk : k ∈ keywords) (label : Text)
    {value : Text} (hlabel : label.map Char.toLower = Text.join [' '] k.words)
    (hvalue : IsValue value) :
    Grammar.rating? w.lead keywords (w.labelled label value) = some value := by
  rw [Grammar.rating?, labelled, Text.after?_append]
  exact labelValue?_written hplain hk hlabel hvalue

theorem ratings?_grammar (w : Written b) (rest : List Text) :
    w.grammar.ratings? w.lead (w.ratingLines ++ rest) =
      some (w.ratings.map Prod.fst, w.ratings.map Prod.snd, rest) := by
  have hsome := w.ratings_isSome
  have hvalue := w.ratings_value
  unfold Grammar.ratings? ratingLines
  cases hratings : w.ratings with
  | none =>
      rw [hratings] at hsome
      simp [grammar, ← hsome]
  | some r =>
      rw [hratings] at hsome
      obtain ⟨hquality, himpact⟩ := hvalue r hratings
      have hq := w.rating?_labelled plain_ratingKeywords.1 (k := ⟨["quality".toList]⟩)
        (by simp [qualityKeywords]) "Quality".toList (by decide) hquality
      have hi := w.rating?_labelled plain_ratingKeywords.2 (k := ⟨["impact".toList]⟩)
        (by simp [impactKeywords]) "Impact".toList (by decide) himpact
      simp only [grammar, ← hsome, Option.isSome_some, if_true, List.cons_append,
        List.nil_append, hq, hi]
      rfl

/-- The run of lines with the lead ends at the empty line. -/
theorem takeWhile_detailLines (w : Written b) (rest : List Text) :
    (w.detailLines ++ [] :: rest).takeWhile (Text.startsWith w.lead) = w.detailLines := by
  have hlead : ∀ line ∈ w.detailLines, Text.startsWith w.lead line = true := by
    intro line hline
    obtain ⟨d, -, rfl⟩ := List.mem_map.mp hline
    exact Text.startsWith_append _ _
  have hempty : ¬ Text.startsWith w.lead [] = true := by
    intro h
    exact w.lead_ne_nil (List.prefix_nil.mp (Text.startsWith_iff.mp h))
  rw [List.takeWhile_append_of_pos hlead, List.takeWhile_cons_of_neg hempty, List.append_nil]

theorem blockAt?_grammar (w : Written b) (rest : List Text) :
    w.grammar.blockAt? (w.lines ++ [] :: rest) =
      some { fields := w.fields, height := w.lines.length } := by
  have hratings := w.ratings?_grammar (w.detailLines ++ [] :: rest)
  rw [lines, List.cons_append, List.append_assoc]
  refine Grammar.blockAt?_eq_some_iff.mpr
    ⟨_, _, _, _, _, w.header?_grammar, hratings, ?_, ?_⟩
  · intro hreq
    rw [show w.indent ++ w.grammar.dialect.mark = w.lead from rfl, takeWhile_detailLines]
    simpa [detailLines] using w.detail_ne hreq
  · rw [show w.indent ++ w.grammar.dialect.mark = w.lead from rfl, takeWhile_detailLines]
    have hlines : w.ratingLines.length = w.grammar.ratingLines := by
      have hsome := w.ratings_isSome
      unfold ratingLines Grammar.ratingLines
      cases hr : w.ratings <;> rw [hr] at hsome <;> simp [grammar, ← hsome]
    simp only [Block.mk.injEq, List.length_cons, List.length_append, hlines]
    exact ⟨rfl, by omega⟩

/-! ### No other grammar has a block there -/

theorem header?_other (w : Written b) {g : Grammar} (hg : g.ApostropheFree)
    (hother : g.dialect ≠ w.dialect) : g.header? (w.labelled w.keyword w.title) = none := by
  cases h : g.header? (w.labelled w.keyword w.title) with
  | none => rfl
  | some found =>
      rw [labelled, lead, List.append_assoc] at h
      obtain ⟨-, rest, hmarks, hvalue⟩ := Grammar.header?_of_indent w.indent_blank h
      -- A space stands behind the one mark and no apostrophe behind the other, so each is at
      -- the front of the other.
      have hle := Grammar.mark_prefix_of_append_eq hmarks (Grammar.label_head_ne hg hvalue)
      have hge := Grammar.mark_prefix_of_append_eq hmarks.symm (by simp [Text.apostrophe])
      exact absurd (Dialect.mark_injective (hge.eq_of_length_le hle.length_le)) hother

theorem firstBlock?_lines (w : Written b) (rest : List Text) :
    firstBlock? b.kind.grammars (w.lines ++ [] :: rest) =
      some { fields := w.fields, height := w.lines.length } := by
  have hown := w.blockAt?_grammar rest
  cases h : firstBlock? b.kind.grammars (w.lines ++ [] :: rest) with
  | none => simp [List.findSome?_eq_none_iff.mp h _ w.grammar_mem] at hown
  | some block =>
      obtain ⟨g, hg, hblock⟩ := List.exists_of_findSome?_eq_some h
      have hdialect : g.dialect = w.dialect := by
        by_contra hother
        have hheader := (Grammar.header?_of_blockAt? hblock).2
        rw [w.header?_other (apostropheFree_builtin b g hg) hother] at hheader
        simp at hheader
      obtain ⟨d, -, rfl⟩ := List.mem_map.mp hg
      obtain rfl : d = w.dialect := hdialect
      rw [← hown, ← hblock]
      rfl

end Written

/-- No block opens at an empty line. -/
theorem firstBlock?_empty (grammars : List Grammar) (rest : List Text) :
    firstBlock? grammars ([] :: rest) = none := by
  refine List.findSome?_eq_none_iff.mpr fun g _ => ?_
  cases h : g.blockAt? ([] :: rest) with
  | none => rfl
  | some b =>
      obtain ⟨-, tail, hline, -⟩ :=
        Grammar.header?_eq_some_iff.mp (Grammar.header?_of_blockAt? h).2
      cases hd : g.dialect <;> simp [hd, Dialect.mark] at hline

/-! ### A text of annotations -/

variable {b : BuiltinKind}

theorem readOnce_written (ws : List (Written b)) (start : Nat) :
    (readOnce b.kind.grammars start (ws.flatMap fun w => w.lines ++ [[]])).map Span.fields =
      ws.map Written.fields := by
  induction ws generalizing start with
  | nil => simp [readOnce]
  | cons w ws ih =>
      rw [List.flatMap_cons, List.append_assoc, List.singleton_append,
        readOnce_of_some (w.firstBlock?_lines _), List.drop_left,
        readOnce_of_none (firstBlock?_empty _ _), List.map_cons, ih, List.map_cons]

theorem flatMap_text (ws : List (Written b)) :
    ws.flatMap Written.text = Text.unlines (ws.flatMap fun w => w.lines ++ [[]]) := by
  induction ws with
  | nil => rfl
  | cons w ws ih => rw [List.flatMap_cons, List.flatMap_cons, Text.unlines_append, ih]; rfl

/-- **Extraction undoes writing.**  In a text of annotations of a built-in kind, written one after
another with an empty line behind each, exactly these are found, in order and with every field as
it was written. -/
theorem find_written (b : BuiltinKind) (ws : List (Written b)) :
    b.kind.find (ws.flatMap Written.text) = ws.map Written.fields := by
  have hlines : ∀ line ∈ ws.flatMap fun w => w.lines ++ [[]], Text.IsLine line := by
    intro line hline
    obtain ⟨w, -, hmem⟩ := List.mem_flatMap.mp hline
    rcases List.mem_append.mp hmem with h | h
    · exact w.isLine_of_mem_lines h
    · obtain rfl : line = [] := by simpa using h
      exact ⟨by simp, by simp⟩
  rw [Kind.find, matchGrammars_eq_map_readOnce (apostropheFree_builtin b), flatMap_text,
    Text.lines_unlines hlines, readOnce_written]

/-- A caveat whose detail reads as a caveat of another dialect, written twice. -/
theorem find_written_nested : ∃ w : Written .caveat,
    w.detailLines = ["\t#' Caveat: inner".toList] ∧
    BuiltinKind.caveat.kind.find ([w, w].flatMap Written.text) = [w.fields, w.fields] := by
  refine ⟨{
    indent := ['\t'], dialect := .hash, keyword := "cAVEAT".toList, title := "outer".toList
    ratings := none, detail := ["' Caveat: inner".toList]
    indent_blank := by simpa using (show Text.isBlank '\t' = true by decide)
    keyword_mem := by decide
    title_value :=
      ⟨by decide, by decide, by simpa using (show Unicode.isWhiteSpace 'o' = false by decide),
        by simpa using (show Unicode.isWhiteSpace 'r' = false by decide)⟩
    ratings_isSome := rfl, ratings_value := by simp
    detail_line := by
      intro d hd
      obtain rfl : d = "' Caveat: inner".toList := by simpa using hd
      exact ⟨by decide, by decide⟩
    detail_ne := by simp }, rfl, ?_⟩
  exact find_written _ [_, _]

end AnnotationLog
