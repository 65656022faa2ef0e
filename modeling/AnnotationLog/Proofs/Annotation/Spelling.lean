/-
Which texts spell a label.

The keywords of a grammar are tried one after the other, and blanks may stand in three
places of a label, so it is not plain that a text has at most one reading.  It has: no
keyword passes over a colon, hence whatever keyword is met, the label ends at the first
colon and the value is what stands behind it.  And no letter of a keyword is met by a
blank, so the blanks on either side of a word are never taken for a part of it.

What is recognised can therefore be said without the order in which it is tried: a label
is a text with certain parts, and a value is found exactly if the parts can be given.
-/
import AnnotationLog.Proofs.Annotation.Label

namespace AnnotationLog

/-! ### Words in letters of either case -/

/-- Two texts are the same up to the case of their letters. -/
def SameLetters (a b : Text) : Prop :=
  a.map Unicode.fold = b.map Unicode.fold

/-- A text that spells some words: every word in letters of either case, and blanks between any
two. -/
inductive Spells : List Text → Text → Prop where
  | last {word written : Text} (same : SameLetters word written) : Spells [word] written
  | next {word written gap rest : Text} {words : List Text} (same : SameLetters word written)
      (gap_ne : gap ≠ []) (gap_blank : ∀ c ∈ gap, Text.isBlank c = true)
      (more : Spells words rest) : Spells (word :: words) (written ++ (gap ++ rest))

/-- A blank is the same letter as itself only. -/
theorem isBlank_of_fold_eq {c d : Char} (h : Unicode.fold c = Unicode.fold d)
    (hd : Text.isBlank d = true) : Text.isBlank c = true := by
  have hsame : Unicode.sameLetter c d = true := by
    rw [Unicode.sameLetter, beq_iff_eq]
    exact h
  simp only [Text.isBlank, Bool.or_eq_true, beq_iff_eq] at hd
  rcases hd with rfl | rfl
  · rw [Unicode.eq_of_sameLetter (by decide) (by decide) hsame]
    decide
  · rw [Unicode.eq_of_sameLetter (by decide) (by decide) hsame]
    decide

theorem SameLetters.head {word written : Text} (h : SameLetters word written) (hne : word ≠ [])
    (hblank : ∀ c ∈ word, Text.isBlank c = false) :
    ∃ c rest, written = c :: rest ∧ Text.isBlank c = false := by
  obtain ⟨w, word, rfl⟩ := List.exists_cons_of_ne_nil hne
  rw [SameLetters, List.map_cons] at h
  obtain ⟨c, rest, rfl, hc, -⟩ := List.map_eq_cons_iff.mp h.symm
  refine ⟨c, rest, rfl, ?_⟩
  by_contra hb
  have hw := isBlank_of_fold_eq hc.symm (by simpa using hb)
  rw [hblank w List.mem_cons_self] at hw
  simp at hw

/-- A text that spells words without blanks does not begin with one. -/
theorem Spells.head {words : List Text} {written : Text} (h : Spells words written)
    (hne : ∀ w ∈ words, w ≠ []) (hblank : ∀ w ∈ words, ∀ c ∈ w, Text.isBlank c = false) :
    ∃ c rest, written = c :: rest ∧ Text.isBlank c = false := by
  cases h with
  | last same =>
      exact same.head (hne _ List.mem_cons_self) (hblank _ List.mem_cons_self)
  | next same gap_ne gap_blank more =>
      obtain ⟨c, rest, rfl, hc⟩ :=
        same.head (hne _ List.mem_cons_self) (hblank _ List.mem_cons_self)
      exact ⟨c, _, rfl, hc⟩

/-- Which words are spelled depends on their letters alone. -/
theorem Spells.congr {words words' : List Text} {written : Text} (h : Spells words written)
    (heq : words.map (List.map Unicode.fold) = words'.map (List.map Unicode.fold)) :
    Spells words' written := by
  induction h generalizing words' with
  | last same =>
      obtain ⟨word', rest', rfl, hword, hrest⟩ := List.map_eq_cons_iff.mp heq.symm
      obtain rfl : rest' = [] := by simpa using hrest
      exact .last (hword.trans same)
  | next same gap_ne gap_blank more ih =>
      obtain ⟨word', rest', rfl, hword, hrest⟩ := List.map_eq_cons_iff.mp heq.symm
      exact .next (hword.trans same) gap_ne gap_blank (ih hrest.symm)

namespace Keyword

/-- What follows a word is what stands behind it in letters of either case. -/
theorem afterWord?_eq_some_iff {word t rest : Text} :
    afterWord? word t = some rest ↔ ∃ written, t = written ++ rest ∧ SameLetters word written := by
  induction word generalizing t with
  | nil =>
      rw [afterWord?, Option.some.injEq]
      constructor
      · intro h
        exact ⟨[], h, rfl⟩
      · rintro ⟨written, rfl, hsame⟩
        obtain rfl : written = [] := by simpa [SameLetters, eq_comm] using hsame
        rfl
  | cons w word ih =>
      cases t with
      | nil =>
          rw [afterWord?]
          constructor
          · intro h
            simp at h
          · rintro ⟨written, hnil, hsame⟩
            obtain ⟨rfl, -⟩ := List.append_eq_nil_iff.mp hnil.symm
            simp [SameLetters] at hsame
      | cons c t =>
          rw [afterWord?]
          by_cases hc : Unicode.sameLetter w c = true
          · rw [if_pos hc, ih]
            rw [Unicode.sameLetter, beq_iff_eq] at hc
            constructor
            · rintro ⟨written, rfl, hsame⟩
              refine ⟨c :: written, rfl, ?_⟩
              rw [SameLetters, List.map_cons, List.map_cons, hc, hsame]
            · rintro ⟨written, ht, hsame⟩
              rw [SameLetters, List.map_cons] at hsame
              obtain ⟨d, written, rfl, hd, hrest⟩ := List.map_eq_cons_iff.mp hsame.symm
              rw [List.cons_append, List.cons.injEq] at ht
              exact ⟨written, ht.2, hrest.symm⟩
          · rw [if_neg hc]
            constructor
            · intro h
              simp at h
            · rintro ⟨written, ht, hsame⟩
              rw [SameLetters, List.map_cons] at hsame
              obtain ⟨d, written, rfl, hd, -⟩ := List.map_eq_cons_iff.mp hsame.symm
              rw [List.cons_append, List.cons.injEq] at ht
              rw [Unicode.sameLetter, beq_iff_eq, ht.1, hd] at hc
              exact absurd rfl hc

/-- **What follows some words is what stands behind a text that spells them.**  A word does not
begin with a blank, so all blanks before it belong to the gap. -/
theorem afterWords?_eq_some_iff {words : List Text} (hwords : words ≠ [])
    (hne : ∀ w ∈ words, w ≠ []) (hblank : ∀ w ∈ words, ∀ c ∈ w, Text.isBlank c = false)
    {t rest : Text} :
    afterWords? words t = some rest ↔ ∃ written, t = written ++ rest ∧ Spells words written := by
  induction words generalizing t with
  | nil => exact absurd rfl hwords
  | cons word words ih =>
      cases words with
      | nil =>
          rw [afterWords?, afterWord?_eq_some_iff]
          constructor
          · rintro ⟨written, ht, hsame⟩
            exact ⟨written, ht, .last hsame⟩
          · rintro ⟨written, ht, hspells⟩
            cases hspells with
            | last same => exact ⟨written, ht, same⟩
            | next same gap_ne gap_blank more => cases more
      | cons next more =>
          have hne' : ∀ w ∈ next :: more, w ≠ [] := fun w hw => hne w (List.mem_cons_of_mem _ hw)
          have hblank' : ∀ w ∈ next :: more, ∀ c ∈ w, Text.isBlank c = false :=
            fun w hw => hblank w (List.mem_cons_of_mem _ hw)
          have ih' := fun t => ih (by simp) hne' hblank' (t := t)
          constructor
          · intro h
            simp only [afterWords?] at h
            split at h
            · rename_i c tail hword
              split at h
              · rename_i hc
                obtain ⟨written, rfl, hsame⟩ := afterWord?_eq_some_iff.mp hword
                obtain ⟨others, hothers, hspells⟩ := (ih' _).mp h
                refine ⟨written ++ (c :: tail.takeWhile Text.isBlank ++ others), ?_, ?_⟩
                · rw [List.append_assoc, List.append_assoc, ← hothers, List.cons_append,
                    List.takeWhile_append_dropWhile]
                · refine .next hsame (by simp) ?_ hspells
                  intro d hd
                  rcases List.mem_cons.mp hd with rfl | hd
                  · exact hc
                  · exact Text.blank_of_mem_takeWhile d hd
              · simp at h
            · simp at h
          · rintro ⟨written, rfl, hspells⟩
            cases hspells with
            | @next _ first gap others _ same gap_ne gap_blank spells =>
                obtain ⟨b, blanks, rfl⟩ := List.exists_cons_of_ne_nil gap_ne
                obtain ⟨c, tail, rfl, hc⟩ := spells.head hne' hblank'
                have hword : afterWord? word
                    (first ++ (b :: blanks ++ c :: tail) ++ rest) =
                      some (b :: (blanks ++ (c :: tail ++ rest))) := by
                  refine afterWord?_eq_some_iff.mpr ⟨first, ?_, same⟩
                  simp
                have hstop : (blanks ++ (c :: tail ++ rest)).dropWhile Text.isBlank =
                    c :: tail ++ rest := by
                  refine Text.dropWhile_blank_append
                    (fun d hd => gap_blank d (List.mem_cons_of_mem _ hd)) ?_
                  intro d hd
                  obtain rfl : c = d := by simpa using hd
                  exact hc
                simp only [afterWords?, hword, gap_blank b List.mem_cons_self, if_true, hstop]
                exact (ih' _).mpr ⟨c :: tail, rfl, spells⟩

end Keyword

/-! ### Values -/

/-- The last character of a text that is no blank exists and shows. -/
def ShowsAtEnd (t : Text) : Prop :=
  ∃ front c behind, t = front ++ c :: behind ∧ Unicode.isWhiteSpace c = false ∧
    ∀ d ∈ behind, Text.isBlank d = true

theorem endsVisibly_iff {t : Text} : endsVisibly t = true ↔ ShowsAtEnd t := by
  unfold endsVisibly
  constructor
  · intro h
    split at h
    · rename_i c front hdrop
      have hsplit := List.takeWhile_append_dropWhile (p := Text.isBlank) (l := t.reverse)
      rw [hdrop] at hsplit
      refine ⟨front.reverse, c, (t.reverse.takeWhile Text.isBlank).reverse, ?_, ?_, ?_⟩
      · simpa using congrArg List.reverse hsplit.symm
      · simpa using h
      · intro d hd
        exact Text.blank_of_mem_takeWhile d (List.mem_reverse.mp hd)
    · simp at h
  · rintro ⟨front, c, behind, rfl, hc, hbehind⟩
    have hblank : Text.isBlank c = false := by
      by_contra hb
      rw [Text.whiteSpace_of_blank (by simpa using hb)] at hc
      simp at hc
    have hdrop : (front ++ c :: behind).reverse.dropWhile Text.isBlank = c :: front.reverse := by
      rw [List.reverse_append, List.reverse_cons, List.append_assoc, List.singleton_append]
      refine Text.dropWhile_blank_append (fun d hd => hbehind d (List.mem_reverse.mp hd)) ?_
      intro d hd
      obtain rfl : c = d := by simpa using hd
      exact hblank
    rw [hdrop]
    simp [hc]

/-- Trimming leaves something of a value, and what it leaves has nothing to trim. -/
theorem ShowsAtEnd.trim {t : Text} (h : ShowsAtEnd t) :
    Text.trim t ≠ [] ∧ Text.trim (Text.trim t) = Text.trim t := by
  obtain ⟨front, c, behind, rfl, hc, -⟩ := h
  exact ⟨Text.trim_ne_nil (by simp) hc, Text.trim_trim _⟩

theorem valueAfterColon?_eq_some_iff {t v : Text} :
    valueAfterColon? t = some v ↔ ∃ gap value, t = gap ++ ':' :: value ∧
      (∀ c ∈ gap, Text.isBlank c = true) ∧ ShowsAtEnd value ∧ v = Text.trim value := by
  unfold valueAfterColon?
  constructor
  · intro h
    split at h
    · rename_i value hcolon
      split at h
      · rename_i hends
        refine ⟨t.takeWhile Text.isBlank, value, ?_, Text.blank_of_mem_takeWhile,
          endsVisibly_iff.mp hends, ?_⟩
        · rw [← hcolon, List.takeWhile_append_dropWhile]
        · simpa using h.symm
      · simp at h
    · simp at h
  · rintro ⟨gap, value, rfl, hgap, hshows, rfl⟩
    have hdrop : (gap ++ ':' :: value).dropWhile Text.isBlank = ':' :: value := by
      refine Text.dropWhile_blank_append hgap ?_
      intro d hd
      obtain rfl : ':' = d := by simpa using hd
      decide
    rw [hdrop]
    simp only [endsVisibly_iff.mpr hshows, if_true]

/-! ### The parts of a label -/

/-- A label with its value: perhaps a space, the words of a keyword, blanks, a colon, and a value
that shows at its end. -/
structure Label (words : List Text) where
  space : Text
  written : Text
  gap : Text
  value : Text
  space_short : space = [] ∨ space = [' ']
  written_spells : Spells words written
  written_noColon : ':' ∉ written
  gap_blank : ∀ c ∈ gap, Text.isBlank c = true
  value_shows : ShowsAtEnd value

/-- The label as it stands on a line. -/
def Label.text {words : List Text} (l : Label words) : Text :=
  l.space ++ (l.written ++ (l.gap ++ ':' :: l.value))

theorem dropSpace_split (t : Text) :
    ∃ space, (space = [] ∨ space = [' ']) ∧ t = space ++ dropSpace t := by
  unfold dropSpace
  split
  · exact ⟨[' '], Or.inr rfl, rfl⟩
  · exact ⟨[], Or.inl rfl, rfl⟩

theorem dropSpace_append {space t : Text} (hspace : space = [] ∨ space = [' '])
    (ht : ∀ c ∈ t.head?, Text.isBlank c = false) : dropSpace (space ++ t) = t := by
  rcases hspace with rfl | rfl
  · rw [List.nil_append]
    unfold dropSpace
    split
    · have hblank := ht ' ' (by simp)
      exact absurd hblank (by decide)
    · rfl
  · rfl

theorem noColon_of_blank {gap : Text} (h : ∀ c ∈ gap, Text.isBlank c = true) : ':' ∉ gap := by
  intro hc
  exact absurd (h ':' hc) (by decide)

/-- A keyword followed by a colon and a value is a label, and nothing else is. -/
theorem Keyword.value_iff {k : Keyword} (hk : k.Plain) {t v : Text} :
    (k.after? (dropSpace t)).bind valueAfterColon? = some v ↔
      ∃ l : Label k.words, l.text = t ∧ Text.trim l.value = v := by
  have hafter : ∀ {t rest : Text}, k.after? t = some rest ↔
      ∃ written, t = written ++ rest ∧ Spells k.words written :=
    afterWords?_eq_some_iff hk.nonempty hk.wordsNonempty hk.noBlank
  rw [Option.bind_eq_some_iff]
  constructor
  · rintro ⟨rest, hrest, hvalue⟩
    obtain ⟨met, hmet, hnocolon⟩ := Keyword.afterWords?_split hk.noColon hrest
    obtain ⟨written, hwritten, hspells⟩ := hafter.mp hrest
    obtain ⟨gap, value, rfl, hgap, hshows, rfl⟩ := valueAfterColon?_eq_some_iff.mp hvalue
    obtain ⟨space, hspace, ht⟩ := dropSpace_split t
    obtain rfl : met = written := List.append_cancel_right (hmet.symm.trans hwritten)
    refine ⟨⟨space, met, gap, value, hspace, hspells, hnocolon, hgap, hshows⟩, ?_, rfl⟩
    rw [ht, hwritten]
    rfl
  · rintro ⟨l, rfl, rfl⟩
    obtain ⟨c, tail, hwritten, hc⟩ := l.written_spells.head hk.wordsNonempty hk.noBlank
    have hdrop : dropSpace l.text = l.written ++ (l.gap ++ ':' :: l.value) := by
      refine dropSpace_append l.space_short ?_
      intro d hd
      rw [hwritten] at hd
      obtain rfl : c = d := by simpa using hd
      exact hc
    refine ⟨l.gap ++ ':' :: l.value, ?_, ?_⟩
    · rw [hdrop]
      exact hafter.mpr ⟨l.written, rfl, l.written_spells⟩
    · exact valueAfterColon?_eq_some_iff.mpr ⟨l.gap, l.value, rfl, l.gap_blank, l.value_shows, rfl⟩

/-- The value of a label stands behind the first colon of its text. -/
theorem Label.first_colon {words : List Text} (l : Label words) :
    ∃ before, l.text = before ++ ':' :: l.value ∧ ':' ∉ before := by
  refine ⟨l.space ++ (l.written ++ l.gap), by simp [text], ?_⟩
  have hspace : ':' ∉ l.space := by
    rcases l.space_short with h | h <;> rw [h] <;> decide
  simp only [List.mem_append, not_or]
  exact ⟨hspace, l.written_noColon, noColon_of_blank l.gap_blank⟩

/-- **The keywords of a grammar give a value exactly to the labels of one of them**, whichever it
is: the first that is met and any other agree on where the value begins. -/
theorem labelValue?_eq_some_iff {keywords : List Keyword} (hplain : ∀ k ∈ keywords, k.Plain)
    {t v : Text} :
    labelValue? keywords t = some v ↔
      ∃ k ∈ keywords, ∃ l : Label k.words, l.text = t ∧ Text.trim l.value = v := by
  unfold labelValue?
  constructor
  · intro h
    obtain ⟨k, hk, hvalue⟩ := List.exists_of_findSome?_eq_some h
    exact ⟨k, hk, (Keyword.value_iff (hplain k hk)).mp hvalue⟩
  · rintro ⟨k, hk, l, rfl, rfl⟩
    have hmet := (Keyword.value_iff (hplain k hk)).mpr ⟨l, rfl, rfl⟩
    cases hfind : keywords.findSome? fun k =>
        (k.after? (dropSpace l.text)).bind valueAfterColon? with
    | none =>
        rw [List.findSome?_eq_none_iff.mp hfind k hk] at hmet
        simp at hmet
    | some v =>
        obtain ⟨k', hk', hv⟩ := List.exists_of_findSome?_eq_some hfind
        obtain ⟨l', htext, rfl⟩ := (Keyword.value_iff (hplain k' hk')).mp hv
        obtain ⟨before, hbefore, hno⟩ := l.first_colon
        obtain ⟨before', hbefore', hno'⟩ := l'.first_colon
        rw [htext, hbefore] at hbefore'
        rw [(Text.first_cut_unique hno hno' hbefore').2]

/-- A label is one of every keyword with the same letters. -/
def Label.recast {words words' : List Text} (l : Label words)
    (h : words.map (List.map Unicode.fold) = words'.map (List.map Unicode.fold)) : Label words' :=
  { l with written_spells := l.written_spells.congr h }

end AnnotationLog
