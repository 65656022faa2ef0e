/-
A header is a line that is cut at its first colon.

A line opens an annotation if it is blanks, the mark of the dialect and a label, and the
parts of a label are what `Proofs/Annotation/Spelling.lean` says they are.  Keywords with
the same words up to case ask for the same parts, so a grammar does not depend on how
often, in which order or with which spacing its keywords were written.
-/
import AnnotationLog.Kind.Basic
import AnnotationLog.Proofs.Annotation.Block
import AnnotationLog.Proofs.Annotation.Spelling

namespace AnnotationLog

/-! ### Keywords as they are written -/

/-- The words of a text in lower case. -/
def lowerWords (t : Text) : List Text :=
  (Text.words t).map (List.map Char.toLower)

/-- Two lists of keywords with the same words: their order, how often one stands there, entries
without a word, spacing and case make no difference. -/
def SameKeywords (texts texts' : List Text) : Prop :=
  (∀ t ∈ texts, Text.isBlankText t = false → ∃ t' ∈ texts', lowerWords t' = lowerWords t) ∧
    ∀ t' ∈ texts', Text.isBlankText t' = false → ∃ t ∈ texts, lowerWords t = lowerWords t'

instance (texts texts' : List Text) : Decidable (SameKeywords texts texts') :=
  inferInstanceAs (Decidable (_ ∧ _))

theorem fold_words_of_lowerWords {t t' : Text} (h : lowerWords t = lowerWords t') :
    (Text.words t).map (List.map Unicode.fold) = (Text.words t').map (List.map Unicode.fold) := by
  have hfold : ∀ w : Text, (w.map Char.toLower).map Unicode.fold = w.map Unicode.fold := by
    intro w
    rw [List.map_map]
    refine List.map_congr_left fun c _ => ?_
    have hsame := Unicode.sameLetter_toLower c
    rw [Unicode.sameLetter, beq_iff_eq] at hsame
    exact hsame
  have hwords := congrArg (List.map (List.map Unicode.fold)) h
  simpa only [lowerWords, List.map_map, Function.comp_def, hfold] using hwords

theorem isBlankText_of_lowerWords {t t' : Text} (h : lowerWords t = lowerWords t') :
    Text.isBlankText t = Text.isBlankText t' := by
  rw [Bool.eq_iff_iff, ← Text.words_eq_nil_iff, ← Text.words_eq_nil_iff]
  have hlength := congrArg List.length h
  rw [lowerWords, lowerWords, List.length_map, List.length_map] at hlength
  rw [← List.length_eq_zero_iff, ← List.length_eq_zero_iff, hlength]

/-- Lower case makes no colon and takes none away. -/
theorem colon_of_lowerWords {t t' : Text} (h : lowerWords t = lowerWords t')
    (hcolon : ':' ∉ t) : ∀ w ∈ Text.words t', ':' ∉ w := by
  intro w hw hc
  have hmem : w.map Char.toLower ∈ lowerWords t := by
    rw [h]
    exact List.mem_map_of_mem hw
  obtain ⟨v, hv, hvw⟩ := List.mem_map.mp hmem
  have hlower : ':' ∈ v.map Char.toLower := by
    rw [hvw]
    exact List.mem_map.mpr ⟨':', hc, by decide⟩
  obtain ⟨d, hd, hdcolon⟩ := List.mem_map.mp hlower
  have hsame := Unicode.sameLetter_toLower d
  rw [hdcolon] at hsame
  have hd' : d = ':' := by
    refine (Unicode.eq_of_sameLetter (c := d) (d := ':') (by decide) (by decide) ?_)
    rw [Unicode.sameLetter, beq_iff_eq] at hsame ⊢
    exact hsame.symm
  exact hcolon (hd' ▸ ((Text.mem_words hv).2 d hd).1)

theorem Keyword.plain_of_words {t : Text} (ht : Text.isBlankText t = false)
    (hcolon : ∀ w ∈ Text.words t, ':' ∉ w) : Keyword.Plain ⟨Text.words t⟩ where
  nonempty := by
    intro hnil
    rw [Text.words_eq_nil_iff.mp hnil] at ht
    simp at ht
  wordsNonempty w hw := (Text.mem_words hw).1
  noBlank w hw c hc := by
    by_contra hb
    have hwhite := ((Text.mem_words hw).2 c hc).2
    rw [Text.whiteSpace_of_blank (by simpa using hb)] at hwhite
    simp at hwhite
  noColon := hcolon

theorem mem_readKeywords {texts : List Text} {k : Keyword} :
    k ∈ readKeywords texts ↔
      ∃ t ∈ texts, Text.isBlankText t = false ∧ k = ⟨Text.words t⟩ := by
  unfold readKeywords
  rw [List.mem_filterMap]
  refine exists_congr fun t => and_congr_right fun _ => ?_
  unfold Keyword.ofText?
  cases hwords : Text.words t with
  | nil => simp [Text.words_eq_nil_iff.mp hwords]
  | cons w ws =>
      have ht : Text.isBlankText t = false := by
        by_contra hb
        rw [Text.words_eq_nil_iff.mpr (by simpa using hb)] at hwords
        simp at hwords
      simp [ht, eq_comm]

namespace Grammar

/-- The grammar of a dialect with the keywords written in some texts. -/
def reading (dialect : Dialect) (texts : List Text) (rated detailRequired : Bool) : Grammar where
  dialect := dialect
  keywords := readKeywords texts
  rated := rated
  detailRequired := detailRequired

variable {dialect : Dialect} {texts texts' : List Text} {rated detailRequired : Bool}

theorem ofTexts_eq_ok (h : ∃ t ∈ texts, Text.isBlankText t = false) :
    ofTexts dialect texts rated detailRequired = .ok (reading dialect texts rated detailRequired)
    := by
  obtain ⟨t, ht, hblank⟩ := h
  have hmem : (⟨Text.words t⟩ : Keyword) ∈ readKeywords texts :=
    mem_readKeywords.mpr ⟨t, ht, hblank, rfl⟩
  unfold ofTexts ofTexts?
  split
  · rename_i g hg
    split at hg
    · simp at hg
    · rw [Option.some.injEq] at hg
      rw [← hg]
      rfl
  · rename_i hg
    split at hg
    · rename_i hnil
      rw [hnil] at hmem
      simp at hmem
    · simp at hg

/-! ### The parts of a header -/

theorem plain_reading (hcolon : ∀ t ∈ texts, Text.isBlankText t = false →
    ∀ w ∈ Text.words t, ':' ∉ w) : ∀ k ∈ readKeywords texts, k.Plain := by
  intro k hk
  obtain ⟨t, ht, hblank, rfl⟩ := mem_readKeywords.mp hk
  exact Keyword.plain_of_words hblank (hcolon t ht hblank)

/-- A line is a header exactly if it is blanks, the mark and a label. -/
theorem header?_reading_iff (hcolon : ∀ t ∈ texts, Text.isBlankText t = false →
    ∀ w ∈ Text.words t, ':' ∉ w) {line indent title : Text} :
    (reading dialect texts rated detailRequired).header? line = some (indent, title) ↔
      ∃ t ∈ texts, Text.isBlankText t = false ∧ ∃ l : Label (Text.words t),
        line = indent ++ (dialect.mark ++ l.text) ∧ indent = line.takeWhile Text.isBlank ∧
          title = Text.trim l.value := by
  rw [header?_eq_some_iff]
  have hlabel : ∀ rest, labelValue? (reading dialect texts rated detailRequired).keywords rest =
      some title ↔ ∃ k ∈ readKeywords texts, ∃ l : Label k.words, l.text = rest ∧
        Text.trim l.value = title :=
    fun rest => labelValue?_eq_some_iff (plain_reading hcolon)
  constructor
  · rintro ⟨hindent, rest, hline, hvalue⟩
    obtain ⟨k, hk, l, rfl, rfl⟩ := (hlabel rest).mp hvalue
    obtain ⟨t, ht, hblank, rfl⟩ := mem_readKeywords.mp hk
    refine ⟨t, ht, hblank, l, hline, ?_, rfl⟩
    rw [hline]
    exact (Text.takeWhile_blank_append hindent (mark_head_not_blank _ _)).symm
  · rintro ⟨t, ht, hblank, l, hline, hindent, rfl⟩
    refine ⟨?_, l.text, hline, ?_⟩
    · rw [hindent]
      exact Text.blank_of_mem_takeWhile
    · exact (hlabel _).mpr ⟨_, mem_readKeywords.mpr ⟨t, ht, hblank, rfl⟩, l, rfl, rfl⟩

/-! ### Keywords with the same words -/

/-- What a grammar finds depends on its keywords only through the headers they make. -/
theorem scanFrom_congr {g : Grammar} {keywords : List Keyword}
    (h : ∀ line, ({ g with keywords } : Grammar).header? line = g.header? line) (start : Nat)
    (ls : List Text) :
    ({ g with keywords } : Grammar).scanFrom start ls = g.scanFrom start ls := by
  have hblock : ∀ ls, ({ g with keywords } : Grammar).blockAt? ls = g.blockAt? ls := by
    intro ls
    cases ls with
    | nil => rfl
    | cons line below =>
        simp only [blockAt?, h]
        rfl
  fun_induction g.scanFrom start ls with
  | case1 start => rw [scanFrom]
  | case2 start line below b hb ih =>
      rw [scanFrom, hblock, hb]
      exact congrArg _ ih
  | case3 start line below hb ih =>
      rw [scanFrom, hblock, hb]
      exact ih

theorem header?_of_sameKeywords (hcolon : ∀ t ∈ texts, ':' ∉ t) (h : SameKeywords texts texts')
    (line : Text) :
    (reading dialect texts' rated detailRequired).header? line =
      (reading dialect texts rated detailRequired).header? line := by
  have hcolon₁ : ∀ t ∈ texts, Text.isBlankText t = false → ∀ w ∈ Text.words t, ':' ∉ w :=
    fun t ht _ => colon_of_lowerWords rfl (hcolon t ht)
  have hcolon₂ : ∀ t ∈ texts', Text.isBlankText t = false → ∀ w ∈ Text.words t, ':' ∉ w := by
    intro t' ht' hblank
    obtain ⟨t, ht, hsame⟩ := h.2 t' ht' hblank
    exact colon_of_lowerWords hsame (hcolon t ht)
  refine Option.ext ?_
  rintro ⟨indent, title⟩
  rw [header?_reading_iff hcolon₁, header?_reading_iff hcolon₂]
  constructor
  · rintro ⟨t', ht', hblank, l, hline, hindent, htitle⟩
    obtain ⟨t, ht, hsame⟩ := h.2 t' ht' hblank
    refine ⟨t, ht, ?_, l.recast (fold_words_of_lowerWords hsame.symm), hline, hindent, htitle⟩
    rw [isBlankText_of_lowerWords hsame]
    exact hblank
  · rintro ⟨t, ht, hblank, l, hline, hindent, htitle⟩
    obtain ⟨t', ht', hsame⟩ := h.1 t ht hblank
    refine ⟨t', ht', ?_, l.recast (fold_words_of_lowerWords hsame.symm), hline, hindent, htitle⟩
    rw [isBlankText_of_lowerWords hsame]
    exact hblank

end Grammar

/-- **A header is a line cut at its first colon.**  For keywords without a colon, of which one has
a word, a line opens an annotation exactly if it is its leading blanks, the mark of the dialect and
a label of one of the keywords.  The blanks are the indent, and the title is what stands behind the
colon of the label, trimmed.  So nothing that is found depends on how the same keywords are
written. -/
theorem header_cut_at_first_colon {texts : List Text}
    (hsome : ∃ t ∈ texts, Text.isBlankText t = false) (hcolon : ∀ t ∈ texts, ':' ∉ t)
    (dialect : Dialect) (rated detailRequired : Bool) :
    ∃ g, Grammar.ofTexts dialect texts rated detailRequired = .ok g ∧
      (∀ line indent title, '\n' ∉ line →
        (g.header? line = some (indent, title) ↔
          ∃ t ∈ texts, Text.isBlankText t = false ∧ ∃ l : Label (Text.words t),
            line = indent ++ (dialect.mark ++ l.text) ∧ indent = line.takeWhile Text.isBlank ∧
              title = Text.trim l.value)) ∧
      ∀ texts', SameKeywords texts texts' →
        ∃ g', Grammar.ofTexts dialect texts' rated detailRequired = .ok g' ∧
          ∀ text, g'.scan text = g.scan text := by
  refine ⟨_, Grammar.ofTexts_eq_ok hsome, ?_, ?_⟩
  · intro line indent title _
    exact Grammar.header?_reading_iff fun t ht _ => colon_of_lowerWords rfl (hcolon t ht)
  · intro texts' hsame
    have hsome' : ∃ t ∈ texts', Text.isBlankText t = false := by
      obtain ⟨t, ht, hblank⟩ := hsome
      obtain ⟨t', ht', hwords⟩ := hsame.1 t ht hblank
      exact ⟨t', ht', by rw [isBlankText_of_lowerWords hwords, hblank]⟩
    refine ⟨_, Grammar.ofTexts_eq_ok hsome', fun text => ?_⟩
    exact Grammar.scanFrom_congr (g := Grammar.reading dialect texts rated detailRequired)
      (Grammar.header?_of_sameKeywords hcolon hsame) 0 (Text.lines text)

/-- Blanks in all places where they may stand, a second colon in the title, and the same keywords
written otherwise. -/
theorem header_cut_at_first_colon_spaced :
    let texts := ["tech debt".toList, " ".toList, "debt".toList]
    let texts' := ["DEBT".toList, "Tech\t DEBT ".toList, "debt".toList]
    (∃ t ∈ texts, Text.isBlankText t = false) ∧ (∀ t ∈ texts, ':' ∉ t) ∧
      SameKeywords texts texts' ∧
      ∃ g g', Grammar.ofTexts .doubleSlash texts false false = .ok g ∧
        Grammar.ofTexts .doubleSlash texts' false false = .ok g' ∧
        g.header? "\t// tEch\t Debt :\ta: b ".toList = some (['\t'], "a: b".toList) ∧
        ∀ text, g'.scan text = g.scan text := by
  intro texts texts'
  have hsome : ∃ t ∈ texts, Text.isBlankText t = false := by decide
  have hcolon : ∀ t ∈ texts, ':' ∉ t := by decide
  have hsame : SameKeywords texts texts' := by decide +kernel
  obtain ⟨g, hg, hheader, hindependent⟩ :=
    header_cut_at_first_colon hsome hcolon .doubleSlash false false
  obtain ⟨g', hg', hscan⟩ := hindependent texts' hsame
  refine ⟨hsome, hcolon, hsame, g, g', hg, hg', ?_, hscan⟩
  have hspells : Spells ["tech".toList, "debt".toList] "tEch\t Debt".toList := by
    refine @Spells.next _ "tEch".toList ['\t', ' '] "Debt".toList _ ?_ (by simp)
      (by simp [Text.isBlank]) (.last ?_)
    · show List.map _ _ = List.map _ _
      decide +kernel
    · show List.map _ _ = List.map _ _
      decide +kernel
  have htrim : Text.trim "\ta: b ".toList = "a: b".toList := by decide +kernel
  rw [hheader _ _ _ (by decide)]
  refine ⟨"tech debt".toList, by decide, by decide, ?_⟩
  exact ⟨{ space := [' '], written := "tEch\t Debt".toList, gap := [' ']
           value := "\ta: b ".toList
           space_short := Or.inr rfl
           written_spells := hspells
           written_noColon := by decide
           gap_blank := by simp [Text.isBlank]
           value_shows := ⟨"\ta: ".toList, 'b', [' '], rfl, by decide, by simp [Text.isBlank]⟩ },
    rfl, by decide, htrim.symm⟩

end AnnotationLog
