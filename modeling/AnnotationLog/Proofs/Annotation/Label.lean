/-
Labels: which text a keyword can stand for.

Case folding moves letters only.  No row of the table starts below `A` and none
leads to anything below `a`, so punctuation and digits fold to themselves and
nothing else folds to them.  A keyword whose first character is such a sign is
therefore met only by that very sign, and a keyword that begins otherwise never
is.

The colon is such a sign too.  A keyword without one cannot pass over one, so the
value of a label is always what stands behind the first colon, whichever keyword
was met; and a keyword written in any case, with a colon and a value behind it, is
a label with that value.
-/
import AnnotationLog.Annotation.Grammar
import AnnotationLog.Proofs.Text.Basic

namespace AnnotationLog

namespace Unicode

/-- The first row of case folding takes `A` to `Z` to `a` to `z`; every other row starts beyond
the ASCII range. -/
theorem caseFolding_rows : ∃ others : List ShiftRow, caseFolding = (0x41, 0x5A, 1, 0x61) :: others ∧
    ∀ row ∈ others, 128 ≤ row.1 :=
  ⟨caseFolding.tail, rfl, by decide +kernel⟩

theorem caseFolding_target_ge : ∀ row ∈ caseFolding, 0x61 ≤ row.2.2.2 := by
  decide +kernel

theorem toLower_of_ge {c : Char} (hc : 128 ≤ c.toNat) : c.toLower = c := by
  refine dif_neg ?_
  intro hupper
  have : c.toNat ≤ 90 := hupper.2
  omega

/-- In the ASCII range folding is lower case. -/
theorem fold_eq_toLower {c : Char} (hc : c.toNat < 128) : fold c = c.toLower := by
  have hlower : ∀ n, n < 128 → (Char.ofNat n).toLower =
      if 0x41 ≤ n ∧ n ≤ 0x5A ∧ (n - 0x41) % 1 = 0 then Char.ofNat (0x61 + (n - 0x41))
      else Char.ofNat n := by
    decide +kernel
  obtain ⟨others, hrows, hothers⟩ := caseFolding_rows
  have hnone : others.findSome? (fun row : ShiftRow => row.apply? c.toNat) = none := by
    rw [List.findSome?_eq_none_iff]
    rintro ⟨first, last, step, target⟩ hrow
    have hfirst : 128 ≤ first := hothers _ hrow
    rw [ ShiftRow.apply?, if_neg]
    omega
  have hc' := hlower c.toNat hc
  rw [Char.ofNat_toNat] at hc'
  rw [hc', fold, shift, hrows, List.findSome?_cons, hnone, ShiftRow.apply?]
  by_cases hupper : 0x41 ≤ c.toNat ∧ c.toNat ≤ 0x5A ∧ (c.toNat - 0x41) % 1 = 0
  · simp only [if_pos hupper]
  · simp only [if_neg hupper]

/-- A letter is the same letter as its lower case. -/
theorem sameLetter_toLower (c : Char) : sameLetter c.toLower c = true := by
  have hascii : ∀ n, n < 128 → (Char.ofNat n).toLower.toNat < 128 ∧
      (Char.ofNat n).toLower.toLower = (Char.ofNat n).toLower := by
    decide +kernel
  rw [sameLetter, beq_iff_eq]
  rcases Nat.lt_or_ge c.toNat 128 with hlt | hge
  · have hc := hascii c.toNat hlt
    rw [Char.ofNat_toNat] at hc
    rw [fold_eq_toLower hc.1, fold_eq_toLower hlt, hc.2]
  · rw [toLower_of_ge hge]

/-- A sign below the letters is its own folded form. -/
theorem fold_of_lt {c : Char} (hc : c.toNat < 0x41) : fold c = c := by
  rw [fold_eq_toLower (by omega)]
  refine dif_neg ?_
  intro hupper
  have : 65 ≤ c.toNat := hupper.1
  omega

/-- Nothing else folds to a sign below the letters. -/
theorem eq_of_fold_eq {c d : Char} (hpos : 0 < d.toNat) (hd : d.toNat < 0x41)
    (h : fold c = d) : c = d := by
  unfold fold shift at h
  cases hrow : caseFolding.findSome? fun row => row.apply? c.toNat with
  | none =>
      rw [hrow] at h
      exact h
  | some n =>
      rw [hrow] at h
      obtain ⟨⟨first, last, step, target⟩, hmem, happ⟩ := List.exists_of_findSome?_eq_some hrow
      have htarget : 0x61 ≤ target := caseFolding_target_ge _ hmem
      simp only [ ShiftRow.apply?] at happ
      split at happ
      · simp only [Option.some.injEq] at happ
        -- A code point that is no character's would give the zero character, which `d` is not.
        replace h : Char.ofNat n = d := h
        by_cases hvalid : n.isValidChar
        · have hn : d.toNat = n := by
            rw [← h, show Char.ofNat n = Char.ofNatAux n hvalid from dif_pos hvalid]
            rfl
          omega
        · have hn : d.toNat = 0 := by
            rw [← h, show Char.ofNat n = '\x00' from dif_neg hvalid]
            rfl
          omega
      · simp at happ

/-- A sign below the letters is the same letter as itself only. -/
theorem eq_of_sameLetter {c d : Char} (hpos : 0 < d.toNat) (hd : d.toNat < 0x41)
    (h : sameLetter c d = true) : c = d := by
  simp only [sameLetter, beq_iff_eq] at h
  rw [fold_of_lt hd] at h
  exact eq_of_fold_eq hpos hd h

end Unicode

/-! ### Keywords that cannot be met -/

namespace Keyword

/-- The character that a keyword begins with. -/
def first? (k : Keyword) : Option Char :=
  k.words.head?.bind List.head?

/-- A keyword as texts give them: it has a word and none of its words is empty. -/
def WellFormed (k : Keyword) : Prop :=
  k.words ≠ [] ∧ ∀ w ∈ k.words, w ≠ []

theorem wellFormed_of_ofText? {t : Text} {k : Keyword} (h : ofText? t = some k) :
    k.WellFormed := by
  unfold ofText? at h
  split at h
  · simp at h
  · rename_i hne
    simp only [Option.some.injEq] at h
    subst h
    refine ⟨hne, ?_⟩
    intro w hw
    have := (List.mem_filter.mp hw).2
    simpa using this

theorem afterWord?_first {w c : Char} {word t rest : Text}
    (h : afterWord? (w :: word) (c :: t) = some rest) : Unicode.sameLetter w c = true := by
  simp only [afterWord?] at h
  split at h
  · rename_i hsame
    exact hsame
  · simp at h

/-- The first character of a keyword is met by the same letter. -/
theorem sameLetter_of_after? {k : Keyword} (hk : k.WellFormed) {c : Char} {t rest : Text}
    (h : k.after? (c :: t) = some rest) : ∃ w ∈ k.first?, Unicode.sameLetter w c = true := by
  obtain ⟨words⟩ := k
  cases words with
  | nil => exact absurd rfl hk.1
  | cons word words =>
      cases word with
      | nil => exact absurd rfl (hk.2 [] (by simp))
      | cons w word =>
          refine ⟨w, by simp [first?], ?_⟩
          cases words with
          | nil => exact afterWord?_first h
          | cons next more =>
              simp only [after?, afterWords?] at h
              split at h
              · rename_i d tail hword
                exact afterWord?_first hword
              · simp at h

end Keyword

/-- The first character of the keyword in a text is the first one that shows. -/
theorem Keyword.first?_of_ofText? {t : Text} {k : Keyword} (h : Keyword.ofText? t = some k) :
    k.first? = (Text.trim t).head? := by
  rw [Text.head?_trim, ← Text.head?_words]
  unfold Keyword.ofText? at h
  split at h
  · simp at h
  · simp only [Option.some.injEq] at h
    rw [← h]
    rfl

/-- No label begins with a sign that no keyword begins with. -/
theorem labelValue?_eq_none {keywords : List Keyword} {c : Char} {t : Text}
    (hpos : 0 < c.toNat) (hc : c.toNat < 0x41) (hspace : c ≠ ' ')
    (hk : ∀ k ∈ keywords, k.WellFormed ∧ k.first? ≠ some c) :
    labelValue? keywords (c :: t) = none := by
  unfold labelValue?
  rw [List.findSome?_eq_none_iff]
  intro k hmem
  have hdrop : dropSpace (c :: t) = c :: t := by
    unfold dropSpace
    split
    · rename_i heq
      exact absurd (List.cons.inj heq).1 hspace
    · rfl
  rw [hdrop]
  cases hafter : k.after? (c :: t) with
  | none => rfl
  | some rest =>
      obtain ⟨w, hw, hsame⟩ := Keyword.sameLetter_of_after? (hk k hmem).1 hafter
      rw [Unicode.eq_of_sameLetter hpos hc hsame] at hw
      exact absurd hw (hk k hmem).2

/-! ### The value stands behind the first colon -/

theorem Keyword.afterWord?_split {word t rest : Text} (hword : ':' ∉ word)
    (h : afterWord? word t = some rest) : ∃ met, t = met ++ rest ∧ ':' ∉ met := by
  induction word generalizing t with
  | nil =>
      simp only [afterWord?, Option.some.injEq] at h
      exact ⟨[], by simp [h], by simp⟩
  | cons w word ih =>
      cases t with
      | nil => simp [afterWord?] at h
      | cons c t =>
          simp only [afterWord?] at h
          split at h
          · rename_i hsame
            obtain ⟨met, rfl, hmet⟩ := ih (fun hc => hword (by simp [hc])) h
            refine ⟨c :: met, rfl, ?_⟩
            rw [List.mem_cons, not_or]
            refine ⟨?_, hmet⟩
            rintro rfl
            exact hword (by simp [Unicode.eq_of_sameLetter (by decide) (by decide) hsame])
          · simp at h

theorem takeWhile_blank_no_colon (t : Text) : ':' ∉ t.takeWhile Text.isBlank := by
  intro hc
  exact absurd (Text.blank_of_mem_takeWhile _ hc) (by decide)

/-- What a keyword without a colon passes over holds no colon. -/
theorem Keyword.afterWords?_split {words : List Text} {t rest : Text}
    (hwords : ∀ w ∈ words, ':' ∉ w) (h : afterWords? words t = some rest) :
    ∃ met, t = met ++ rest ∧ ':' ∉ met := by
  induction words generalizing t with
  | nil =>
      simp only [afterWords?, Option.some.injEq] at h
      exact ⟨[], by simp [h], by simp⟩
  | cons word words ih =>
      cases words with
      | nil => exact afterWord?_split (hwords word (by simp)) h
      | cons next more =>
          simp only [afterWords?] at h
          split at h
          · rename_i c tail hword
            split at h
            · rename_i hblank
              obtain ⟨met, rfl, hmet⟩ := afterWord?_split (hwords word (by simp)) hword
              obtain ⟨met', hmet', hno⟩ := ih (fun w hw => hwords w (by simp [hw])) h
              refine ⟨met ++ (c :: tail.takeWhile Text.isBlank ++ met'), ?_, ?_⟩
              · rw [List.append_assoc, List.append_assoc, ← hmet', List.cons_append,
                  List.takeWhile_append_dropWhile]
              · simp only [List.cons_append, List.mem_append, List.mem_cons, not_or]
                refine ⟨hmet, ?_, takeWhile_blank_no_colon _, hno⟩
                rintro rfl
                exact absurd hblank (by decide)
            · simp at h
          · simp at h

/-- **The value of a label is what stands behind the first colon**, trimmed. -/
theorem value_behind_first_colon {k : Keyword} (hk : ∀ w ∈ k.words, ':' ∉ w) {t v : Text}
    (h : (k.after? t).bind valueAfterColon? = some v) :
    ∃ before value, t = before ++ ':' :: value ∧ ':' ∉ before ∧ v = Text.trim value := by
  obtain ⟨rest, hafter, hvalue⟩ := Option.bind_eq_some_iff.mp h
  obtain ⟨met, rfl, hmet⟩ := Keyword.afterWords?_split hk hafter
  unfold valueAfterColon? at hvalue
  split at hvalue
  · rename_i value hcolon
    split at hvalue
    · simp only [Option.some.injEq] at hvalue
      refine ⟨met ++ rest.takeWhile Text.isBlank, value, ?_, ?_, hvalue.symm⟩
      · rw [List.append_assoc, ← hcolon, List.takeWhile_append_dropWhile]
      · rw [List.mem_append, not_or]
        exact ⟨hmet, takeWhile_blank_no_colon _⟩
    · simp at hvalue
  · simp at hvalue

/-! ### A label as it is written -/

/-- A value as one writes it: some characters on one line, of which the first and the last
show. -/
structure IsValue (t : Text) : Prop where
  nonempty : t ≠ []
  oneLine : '\n' ∉ t
  first : ∀ c ∈ t.head?, Unicode.isWhiteSpace c = false
  last : ∀ c ∈ t.getLast?, Unicode.isWhiteSpace c = false

/-- A keyword whose words can be told from the blanks between them, and the label from its
value. -/
structure Keyword.Plain (k : Keyword) : Prop where
  nonempty : k.words ≠ []
  wordsNonempty : ∀ w ∈ k.words, w ≠ []
  noBlank : ∀ w ∈ k.words, ∀ c ∈ w, Text.isBlank c = false
  noColon : ∀ w ∈ k.words, ':' ∉ w

theorem isBlank_toLower {c : Char} : Text.isBlank c.toLower = Text.isBlank c := by
  have hascii : ∀ n, n < 128 →
      Text.isBlank (Char.ofNat n).toLower = Text.isBlank (Char.ofNat n) := by
    decide +kernel
  rcases Nat.lt_or_ge c.toNat 128 with hlt | hge
  · simpa using hascii c.toNat hlt
  · rw [Unicode.toLower_of_ge hge]

/-- A word in any case is met by the word. -/
theorem Keyword.afterWord?_written {written word : Text}
    (hword : written.map Char.toLower = word) (rest : Text) :
    afterWord? word (written ++ rest) = some rest := by
  induction written generalizing word with
  | nil =>
      subst hword
      rfl
  | cons c written ih =>
      subst hword
      simp only [List.map_cons, List.cons_append, afterWord?, Unicode.sameLetter_toLower, if_true]
      exact ih rfl

/-- The words of a keyword in any case, a space between any two, are met by the keyword. -/
theorem Keyword.afterWords?_written {words : List Text} (hne : ∀ w ∈ words, w ≠ [])
    (hblank : ∀ w ∈ words, ∀ c ∈ w, Text.isBlank c = false) {written : Text}
    (hwritten : written.map Char.toLower = Text.join [' '] words) (rest : Text) :
    afterWords? words (written ++ rest) = some rest := by
  induction words generalizing written with
  | nil =>
      have : written = [] := by simpa [Text.join] using hwritten
      simp [this, afterWords?]
  | cons word words ih =>
      cases words with
      | nil => exact afterWord?_written (by simpa [Text.join] using hwritten) rest
      | cons next more =>
          rw [Text.join_cons_cons, List.map_eq_append_iff] at hwritten
          obtain ⟨first, others, rfl, hfirst, hothers⟩ := hwritten
          obtain ⟨c, tail, rfl, hc, htail⟩ := List.map_eq_cons_iff.mp hothers
          have hsep : Text.isBlank c = true := by
            rw [← isBlank_toLower, hc]
            decide
          -- The next word does not begin with a blank, so the blanks end right before it.
          have hstop : (tail ++ rest).dropWhile Text.isBlank = tail ++ rest := by
            obtain ⟨d, ds, hnext⟩ := List.exists_cons_of_ne_nil (hne next (by simp))
            have hhead : tail.map Char.toLower = d :: (ds ++ Text.join [' '] ([] :: more)) := by
              rw [htail, hnext]
              cases more <;> simp [Text.join, List.intercalate]
            obtain ⟨e, tail, rfl, he, -⟩ := List.map_eq_cons_iff.mp hhead
            have hd : Text.isBlank d = false := hblank next (by simp) d (by simp [hnext])
            rw [← he, isBlank_toLower] at hd
            simp [hd]
          simp only [afterWords?, List.append_assoc, List.cons_append,
            afterWord?_written hfirst, if_pos hsep, hstop]
          exact ih (fun w hw => hne w (by simp [hw])) (fun w hw => hblank w (by simp [hw])) htail

theorem valueAfterColon?_written {value : Text} (hvalue : IsValue value) :
    valueAfterColon? (':' :: ' ' :: value) = some value := by
  have hends : endsVisibly (' ' :: value) = true := by
    obtain ⟨front, c, rfl⟩ := List.eq_nil_or_concat value |>.resolve_left hvalue.nonempty
    have hc : Unicode.isWhiteSpace c = false := hvalue.last c (by simp)
    have hblank : Text.isBlank c = false := by
      by_contra hb
      rw [Text.whiteSpace_of_blank (by simpa using hb)] at hc
      simp at hc
    simp [endsVisibly, hblank, hc]
  have htrim : Text.trim (' ' :: value) = value := by
    rw [Text.trim_cons_of_whiteSpace (by decide), Text.trim_eq_self hvalue.first hvalue.last]
  have hcolon : (':' :: ' ' :: value).dropWhile Text.isBlank = ':' :: ' ' :: value :=
    List.dropWhile_cons_of_neg (by decide)
  rw [valueAfterColon?, hcolon]
  simp [hends, htrim]

/-- **A keyword in any case with a colon and a value behind it is a label with that value**,
whatever the other keywords are. -/
theorem labelValue?_written {keywords : List Keyword} (hplain : ∀ k ∈ keywords, k.Plain)
    {k : Keyword} (hk : k ∈ keywords) {written value : Text}
    (hwritten : written.map Char.toLower = Text.join [' '] k.words) (hvalue : IsValue value) :
    labelValue? keywords (' ' :: (written ++ ':' :: ' ' :: value)) = some value := by
  have hnocolon : ':' ∉ written := by
    intro hc
    have hmem : ':' ∈ Text.join [' '] k.words := by
      rw [← hwritten]
      exact List.mem_map.mpr ⟨':', hc, by decide⟩
    rcases Text.mem_join hmem with hsep | ⟨w, hw, hcw⟩
    · exact absurd hsep (by decide)
    · exact (hplain k hk).noColon w hw hcw
  have hmet : (k.after? (written ++ ':' :: ' ' :: value)).bind valueAfterColon? = some value := by
    rw [Keyword.after?, Keyword.afterWords?_written (hplain k hk).wordsNonempty
      (hplain k hk).noBlank hwritten]
    exact valueAfterColon?_written hvalue
  show (keywords.findSome? fun k =>
    (k.after? (written ++ ':' :: ' ' :: value)).bind valueAfterColon?) = some value
  cases hfind : keywords.findSome? fun k =>
      (k.after? (written ++ ':' :: ' ' :: value)).bind valueAfterColon? with
  | none =>
      rw [List.findSome?_eq_none_iff.mp hfind k hk] at hmet
      simp at hmet
  | some v =>
      -- Whichever keyword was met first, its value stands behind the same colon.
      obtain ⟨k', hk', hv⟩ := List.exists_of_findSome?_eq_some hfind
      obtain ⟨before, value', hsplit, hbefore, rfl⟩ :=
        value_behind_first_colon (hplain k' hk').noColon hv
      obtain ⟨-, hsame⟩ := Text.first_cut_unique hnocolon hbefore hsplit
      rw [← hsame, Text.trim_cons_of_whiteSpace (by decide),
        Text.trim_eq_self hvalue.first hvalue.last]

end AnnotationLog
