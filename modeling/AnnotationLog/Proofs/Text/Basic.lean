/-
How a text begins and what trimming leaves.

Recognition peels a known beginning off the front of a text, so everything said
about it later rests on one fact: `after?` gives the rest exactly when the text
is the beginning followed by that rest.  `startsWith` is then the library's
prefix relation, and the lemmas about prefixes come for free.

Trimming is the other thing done to every captured piece.  What matters of it is
where it stops: a text whose two ends show is left alone.
-/
import AnnotationLog.Text.Trim
import Mathlib.Data.List.DropRight
import Mathlib.Data.List.TakeWhile

namespace AnnotationLog.Text

/-! ### A known beginning -/

theorem after?_eq_some_iff {start t rest : Text} :
    after? start t = some rest ↔ t = start ++ rest := by
  induction start generalizing t with
  | nil => simp [after?, eq_comm]
  | cons s start ih =>
      cases t with
      | nil => simp [after?]
      | cons c t =>
          by_cases hsc : s = c
          · simp [after?, hsc, ih]
          · simp [after?, hsc, Ne.symm hsc]

@[simp] theorem after?_append (start rest : Text) : after? start (start ++ rest) = some rest :=
  after?_eq_some_iff.mpr rfl

theorem startsWith_iff {start t : Text} : startsWith start t = true ↔ start <+: t := by
  rw [startsWith, Option.isSome_iff_exists]
  constructor
  · rintro ⟨rest, hrest⟩
    exact ⟨rest, (after?_eq_some_iff.mp hrest).symm⟩
  · rintro ⟨rest, rfl⟩
    exact ⟨rest, after?_append start rest⟩

/-- What both texts begin with does not matter. -/
theorem after?_append_append (w start t : Text) :
    after? (w ++ start) (w ++ t) = after? start t := by
  induction w with
  | nil => rfl
  | cons c w ih => simp [after?, ih]

@[simp] theorem startsWith_append (start rest : Text) : startsWith start (start ++ rest) = true :=
  startsWith_iff.mpr (List.prefix_append start rest)

/-- What begins with a longer text begins with a shorter one. -/
theorem startsWith_of_prefix {short long t : Text} (hpre : short <+: long)
    (h : startsWith long t = true) : startsWith short t = true :=
  startsWith_iff.mpr (hpre.trans (startsWith_iff.mp h))

/-- What stands at the front of two texts is at the front of the first or reaches into the
second. -/
theorem prefix_append_cases {piece x y : Text} (h : piece <+: x ++ y) :
    piece <+: x ∨ ∃ r, r ≠ [] ∧ piece = x ++ r ∧ r <+: y := by
  rcases List.prefix_or_prefix_of_prefix h (List.prefix_append x y) with hx | ⟨r, rfl⟩
  · exact Or.inl hx
  · by_cases hr : r = []
    · exact Or.inl (by simp [hr])
    · exact Or.inr ⟨r, hr, rfl, (List.prefix_append_right_inj x).mp h⟩

/-- A text is cut in one way where a character first stands. -/
theorem first_cut_unique {cut : Char} {a b x y : Text} (ha : cut ∉ a) (hb : cut ∉ b)
    (h : a ++ cut :: x = b ++ cut :: y) : a = b ∧ x = y := by
  induction a generalizing b with
  | nil =>
      cases b with
      | nil => simpa using h
      | cons c b =>
          simp only [List.nil_append, List.cons_append, List.cons.injEq] at h
          exact absurd (List.mem_cons.mpr (Or.inl h.1)) hb
  | cons c a ih =>
      cases b with
      | nil =>
          simp only [List.nil_append, List.cons_append, List.cons.injEq] at h
          exact absurd (List.mem_cons.mpr (Or.inl h.1.symm)) ha
      | cons d b =>
          simp only [List.cons_append, List.cons.injEq] at h
          have := ih (fun hc => ha (by simp [hc])) (fun hc => hb (by simp [hc])) h.2
          exact ⟨by rw [h.1, this.1], this.2⟩

/-! ### The blanks at the front -/

/-- A run of blanks in front of something that is none is exactly the leading run. -/
theorem takeWhile_blank_append {w t : Text} (hw : ∀ c ∈ w, isBlank c = true)
    (ht : ∀ c ∈ t.head?, isBlank c = false) : (w ++ t).takeWhile isBlank = w := by
  rw [List.takeWhile_append_of_pos hw]
  cases t with
  | nil => simp
  | cons c t => simp [ht c (by simp)]

theorem dropWhile_blank_append {w t : Text} (hw : ∀ c ∈ w, isBlank c = true)
    (ht : ∀ c ∈ t.head?, isBlank c = false) : (w ++ t).dropWhile isBlank = t := by
  rw [List.dropWhile_append_of_pos hw]
  cases t with
  | nil => simp
  | cons c t => simp [ht c (by simp)]

theorem blank_of_mem_takeWhile {t : Text} : ∀ c ∈ t.takeWhile isBlank, isBlank c = true :=
  fun _ hc => List.mem_takeWhile_imp hc

/-! ### Trimming -/

open Unicode

theorem whiteSpace_of_blank {c : Char} (hc : isBlank c = true) : isWhiteSpace c = true := by
  simp only [isBlank, Bool.or_eq_true, beq_iff_eq] at hc
  rcases hc with rfl | rfl <;> decide

theorem trim_cons_of_whiteSpace {c : Char} (hc : isWhiteSpace c = true) (t : Text) :
    trim (c :: t) = trim t := by
  simp [trim, trimStart, hc]

theorem trim_append_of_blank {w : Text} (hw : ∀ c ∈ w, isBlank c = true) (t : Text) :
    trim (w ++ t) = trim t := by
  induction w with
  | nil => rfl
  | cons c w ih =>
      rw [List.forall_mem_cons] at hw
      rw [List.cons_append, trim_cons_of_whiteSpace (whiteSpace_of_blank hw.1), ih hw.2]

theorem trimEnd_eq_rdropWhile (t : Text) : trimEnd t = t.rdropWhile isWhiteSpace := rfl

theorem trimEnd_prefix (t : Text) : trimEnd t <+: t :=
  List.rdropWhile_prefix isWhiteSpace t

/-- A text whose first and last characters show is left alone. -/
theorem trim_eq_self {t : Text} (hfirst : ∀ c ∈ t.head?, isWhiteSpace c = false)
    (hlast : ∀ c ∈ t.getLast?, isWhiteSpace c = false) : trim t = t := by
  have hstart : trimStart t = t := by
    cases t with
    | nil => rfl
    | cons c t => simp [trimStart, hfirst c (by simp)]
  rw [trim, hstart, trimEnd_eq_rdropWhile, List.rdropWhile_eq_self_iff]
  intro hne
  simp [hlast _ (List.getLast?_eq_some_getLast hne)]

/-- The front of a text is what it shows first; trimming the end does not reach it. -/
theorem head?_trim (t : Text) : (trim t).head? = (trimStart t).head? := by
  cases hstart : trimStart t with
  | nil => simp [trim, hstart, trimEnd]
  | cons c rest =>
      have hc : isWhiteSpace c = false := by
        have := List.head?_dropWhile_not isWhiteSpace t
        rw [show t.dropWhile isWhiteSpace = c :: rest from hstart] at this
        simpa using this
      obtain ⟨tail, htail⟩ := trimEnd_prefix (c :: rest)
      rw [trim, hstart]
      cases hend : trimEnd (c :: rest) with
      | nil =>
          rw [trimEnd_eq_rdropWhile, List.rdropWhile_eq_nil_iff] at hend
          simp [hend c (by simp)] at hc
      | cons d end_ =>
          rw [hend] at htail
          simp only [List.cons_append, List.cons.injEq] at htail
          simp [htail.1]

/-- Trimming takes nothing but white space away, and only at the two ends. -/
theorem trim_split (t : Text) : ∃ w w', t = w ++ (trim t ++ w') ∧
    (∀ c ∈ w, isWhiteSpace c = true) ∧ ∀ c ∈ w', isWhiteSpace c = true := by
  refine ⟨t.takeWhile isWhiteSpace, (trimStart t).rtakeWhile isWhiteSpace, ?_, ?_, ?_⟩
  · rw [trim, trimEnd_eq_rdropWhile, List.rdropWhile_append_rtakeWhile, trimStart,
      List.takeWhile_append_dropWhile]
  · exact fun c hc => List.mem_takeWhile_imp hc
  · exact fun c hc => List.mem_rtakeWhile_imp hc

theorem mem_of_mem_trim {t : Text} {c : Char} (h : c ∈ trim t) : c ∈ t := by
  obtain ⟨w, w', ht, -, -⟩ := trim_split t
  rw [ht]
  exact List.mem_append_right _ (List.mem_append_left _ h)

theorem length_trim_le (t : Text) : (trim t).length ≤ t.length := by
  obtain ⟨w, w', ht, -, -⟩ := trim_split t
  have hlength := congrArg List.length ht
  rw [List.length_append, List.length_append] at hlength
  omega

/-- What is left after trimming shows at both ends. -/
theorem trim_ends (t : Text) : (∀ c ∈ (trim t).head?, isWhiteSpace c = false) ∧
    ∀ c ∈ (trim t).getLast?, isWhiteSpace c = false := by
  constructor
  · intro c hc
    have hnot := List.head?_dropWhile_not isWhiteSpace t
    rw [head?_trim, trimStart] at hc
    rw [hc] at hnot
    simpa using hnot
  · intro c hc
    rw [trim, trimEnd_eq_rdropWhile] at hc
    obtain ⟨hne, rfl⟩ := List.mem_getLast?_eq_getLast hc
    simpa using List.rdropWhile_last_not isWhiteSpace (trimStart t) hne

/-- White space around a text that shows at both ends is what trimming takes away. -/
theorem trim_of_ends {w t w' : Text} (hw : ∀ c ∈ w, isWhiteSpace c = true)
    (hw' : ∀ c ∈ w', isWhiteSpace c = true) (hfirst : ∀ c ∈ t.head?, isWhiteSpace c = false)
    (hlast : ∀ c ∈ t.getLast?, isWhiteSpace c = false) : trim (w ++ (t ++ w')) = t := by
  have hfront : trimStart (w ++ (t ++ w')) = trimStart (t ++ w') :=
    List.dropWhile_append_of_pos hw
  have hback : ∀ x : Text, trimEnd (x ++ w') = trimEnd x := by
    intro x
    rw [trimEnd_eq_rdropWhile, List.rdropWhile, List.reverse_append,
      List.dropWhile_append_of_pos (by simpa using hw')]
    rfl
  cases t with
  | nil =>
      rw [trim, hfront, List.nil_append, trimStart, List.dropWhile_eq_nil_iff.mpr hw']
      rfl
  | cons c t =>
      have hstart : trimStart (c :: t ++ w') = c :: t ++ w' := by
        simp [trimStart, hfirst c (by simp)]
      have hself := trim_eq_self hfirst hlast
      rw [trim, show trimStart (c :: t) = c :: t by simp [trimStart, hfirst c (by simp)]] at hself
      rw [trim, hfront, hstart, hback, hself]

theorem trim_trim (t : Text) : trim (trim t) = trim t :=
  trim_eq_self (trim_ends t).1 (trim_ends t).2

/-- A text with a character that shows is not trimmed away. -/
theorem trim_ne_nil {t : Text} {c : Char} (hc : c ∈ t) (hshows : isWhiteSpace c = false) :
    trim t ≠ [] := by
  intro hnil
  obtain ⟨w, w', ht, hw, hw'⟩ := trim_split t
  rw [ht, hnil, List.nil_append] at hc
  have hwhite : isWhiteSpace c = true := by
    rcases List.mem_append.mp hc with h | h
    · exact hw c h
    · exact hw' c h
  rw [hshows] at hwhite
  simp at hwhite

/-- A beginning whose first and last characters show is still there after trimming. -/
theorem prefix_trim {x t : Text} (hbegins : x <+: t) (hne : x ≠ [])
    (hfirst : ∀ c ∈ x.head?, isWhiteSpace c = false)
    (hlast : ∀ c ∈ x.getLast?, isWhiteSpace c = false) : x <+: trim t := by
  obtain ⟨w, w', ht, hw, hw'⟩ := trim_split t
  obtain ⟨c, body, rfl⟩ := List.exists_cons_of_ne_nil hne
  -- Nothing was taken away at the front, for `x` begins there.
  have hnil : w = [] := by
    cases w with
    | nil => rfl
    | cons d w =>
        rw [ht, List.cons_append, List.cons_prefix_cons] at hbegins
        have h1 := hfirst c (by simp)
        rw [hbegins.1, hw d (by simp)] at h1
        simp at h1
  rw [ht, hnil, List.nil_append] at hbegins
  rcases prefix_append_cases hbegins with h | ⟨r, hr, hx, hrw⟩
  · exact h
  · have hend : (c :: body).getLast? = r.getLast? := by
      rw [hx, List.getLast?_append_of_ne_nil _ hr]
    have h1 := hlast _ (hend.trans (List.getLast?_eq_some_getLast hr))
    rw [hw' _ (hrw.subset (List.getLast_mem hr))] at h1
    simp at h1

/-! ### Words -/

theorem words_cons_of_whiteSpace {c : Char} {t : Text} (hc : isWhiteSpace c = true) :
    words (c :: t) = words t := by
  simp [words, List.splitOnP_cons_eq_if_modifyHead, hc]

/-- The first word of a text begins where the text first shows. -/
theorem head?_words (t : Text) : (words t).head?.bind List.head? = (trimStart t).head? := by
  induction t with
  | nil => rfl
  | cons c t ih =>
      by_cases hc : isWhiteSpace c = true
      · rw [words_cons_of_whiteSpace hc, ih]
        simp [trimStart, hc]
      · have hsplit := List.splitOnP_ne_nil isWhiteSpace t
        cases hpieces : t.splitOnP isWhiteSpace with
        | nil => exact absurd hpieces hsplit
        | cons piece pieces =>
            simp [words, List.splitOnP_cons_eq_if_modifyHead, hc, hpieces, trimStart]

/-- A piece between cuts has the text's characters, and none that is cut at. -/
theorem mem_splitOnP {p : Char → Bool} {t piece : Text} (h : piece ∈ t.splitOnP p) :
    ∀ c ∈ piece, c ∈ t ∧ p c = false := by
  induction t generalizing piece with
  | nil =>
      rw [List.splitOnP_nil, List.mem_singleton] at h
      simp [h]
  | cons d t ih =>
      have htail : ∀ piece ∈ t.splitOnP p, ∀ c ∈ piece, c ∈ d :: t ∧ p c = false := by
        intro piece hpiece c hc
        exact ⟨List.mem_cons_of_mem _ (ih hpiece c hc).1, (ih hpiece c hc).2⟩
      rw [List.splitOnP_cons_eq_if_modifyHead] at h
      by_cases hd : p d = true
      · rw [if_pos hd] at h
        rcases List.mem_cons.mp h with rfl | h
        · simp
        · exact htail piece h
      · obtain ⟨first, others, hsplit⟩ :=
          List.exists_cons_of_ne_nil (List.splitOnP_ne_nil p t)
        rw [if_neg hd, hsplit, List.modifyHead_cons] at h
        rw [hsplit] at htail
        rcases List.mem_cons.mp h with rfl | h
        · intro c hc
          rcases List.mem_cons.mp hc with rfl | hc
          · exact ⟨List.mem_cons_self, by simpa using hd⟩
          · exact htail first List.mem_cons_self c hc
        · exact htail piece (List.mem_cons_of_mem _ h)

/-- A word has characters of the text that show, at least one. -/
theorem mem_words {t w : Text} (h : w ∈ words t) :
    w ≠ [] ∧ ∀ c ∈ w, c ∈ t ∧ isWhiteSpace c = false := by
  obtain ⟨hpiece, hne⟩ := List.mem_filter.mp h
  exact ⟨by simpa using hne, mem_splitOnP hpiece⟩

theorem words_eq_nil_iff {t : Text} : words t = [] ↔ isBlankText t = true := by
  rw [isBlankText, List.all_eq_true]
  constructor
  · intro h
    have hhead : (trimStart t).head? = none := by
      rw [← head?_words, h]
      rfl
    rw [List.head?_eq_none_iff, trimStart, List.dropWhile_eq_nil_iff] at hhead
    exact hhead
  · intro h
    induction t with
    | nil => rfl
    | cons c t ih =>
        rw [words_cons_of_whiteSpace (h c List.mem_cons_self)]
        exact ih fun d hd => h d (List.mem_cons_of_mem _ hd)

/-! ### Pieces put together -/

theorem join_cons_cons (separator piece next : Text) (more : List Text) :
    join separator (piece :: next :: more) =
      piece ++ (separator ++ join separator (next :: more)) := by
  simp [join, List.intercalate]

theorem join_ne_nil (separator : Text) {piece : Text} (hpiece : piece ≠ []) (more : List Text) :
    join separator (piece :: more) ≠ [] := by
  cases more with
  | nil => simpa [join] using hpiece
  | cons next more =>
      rw [join_cons_cons]
      simp [hpiece]

theorem join_concat {separator piece : Text} {pieces : List Text} (hne : pieces ≠ []) :
    join separator (pieces ++ [piece]) = join separator pieces ++ (separator ++ piece) := by
  induction pieces with
  | nil => exact absurd rfl hne
  | cons first pieces ih =>
      cases pieces with
      | nil => simp [join, List.intercalate]
      | cons next more =>
          rw [List.cons_append, List.cons_append, join_cons_cons, ← List.cons_append,
            ih (by simp), join_cons_cons, List.append_assoc, List.append_assoc]

theorem joinLines_cons (line : Text) (more : List Text) :
    joinLines (line :: more) = line ++ more.flatMap ('\n' :: ·) := by
  induction more generalizing line with
  | nil => simp [joinLines, join]
  | cons next more ih =>
      rw [joinLines, join_cons_cons, ← joinLines, ih]
      rfl

theorem mem_join {c : Char} {separator : Text} {pieces : List Text}
    (h : c ∈ join separator pieces) : c ∈ separator ∨ ∃ piece ∈ pieces, c ∈ piece := by
  induction pieces with
  | nil => simp [join] at h
  | cons piece pieces ih =>
      cases pieces with
      | nil => exact Or.inr ⟨piece, by simp, by simpa [join] using h⟩
      | cons next more =>
          rw [join_cons_cons, List.mem_append, List.mem_append] at h
          rcases h with hpiece | hsep | hrest
          · exact Or.inr ⟨piece, by simp, hpiece⟩
          · exact Or.inl hsep
          · rcases ih hrest with hsep | ⟨q, hq, hc⟩
            · exact Or.inl hsep
            · exact Or.inr ⟨q, List.mem_cons_of_mem _ hq, hc⟩

end AnnotationLog.Text
