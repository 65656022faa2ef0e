/-
A detail as running text.

Cleaning cuts a block into lines, takes the lead off each, trims what is left, drops
the empty lines and puts the others together with single spaces.  Whatever the block
was, the result is running text: it is on one line, no two spaces stand together in
it, and both of its ends show.

Running text goes through every step but one as it is: it is a single line, there is
nothing to trim, and no run of spaces to collapse.  What a second cleaning may still
do is take the lead off, and then the text gets shorter.  So the second cleaning
changes nothing exactly if there is no lead or the text does not begin with it.
-/
import AnnotationLog.Annotation.Detail
import AnnotationLog.Proofs.Annotation.Label
import AnnotationLog.Proofs.Text.Line

namespace AnnotationLog

namespace Text

/-! ### Runs of spaces -/

/-- Two spaces, one behind the other. -/
def twoSpaces : Text :=
  [' ', ' ']

theorem collapseSpaces_run (t : Text) :
    collapseSpaces (' ' :: ' ' :: t) = collapseSpaces (' ' :: t) := rfl

theorem collapseSpaces_cons_of_not {c : Char} {t : Text} (h : ¬ twoSpaces <+: c :: t) :
    collapseSpaces (c :: t) = c :: collapseSpaces t := by
  rw [collapseSpaces, if_neg]
  intro hrun
  simp only [Bool.and_eq_true, beq_iff_eq] at hrun
  obtain ⟨rest, rfl⟩ := List.head?_eq_some_iff.mp hrun.2
  exact h (by simp [twoSpaces, hrun.1])

/-- A text is read from the front: a space before another one, or else a character. -/
@[elab_as_elim]
theorem spaces_induction {motive : Text → Prop} (nil : motive [])
    (run : ∀ t, motive (' ' :: t) → motive (' ' :: ' ' :: t))
    (char : ∀ c t, ¬ twoSpaces <+: c :: t → motive t → motive (c :: t)) (t : Text) :
    motive t := by
  induction t with
  | nil => exact nil
  | cons c t ih =>
      by_cases h : twoSpaces <+: c :: t
      · obtain ⟨rest, hrest⟩ := h
        obtain ⟨rfl, rfl⟩ := List.cons.inj hrest
        exact run rest ih
      · exact char c t h ih

theorem head?_collapseSpaces (t : Text) : (collapseSpaces t).head? = t.head? := by
  induction t using spaces_induction with
  | nil => rfl
  | run t ih => rw [collapseSpaces_run, ih, List.head?_cons, List.head?_cons]
  | char c t h ih => rw [collapseSpaces_cons_of_not h, List.head?_cons, List.head?_cons]

theorem getLast?_collapseSpaces (t : Text) : (collapseSpaces t).getLast? = t.getLast? := by
  induction t using spaces_induction with
  | nil => rfl
  | run t ih => rw [collapseSpaces_run, ih, List.getLast?_cons_cons]
  | char c t h ih => rw [collapseSpaces_cons_of_not h, List.getLast?_cons, List.getLast?_cons, ih]

theorem collapseSpaces_ne_nil {t : Text} (h : t ≠ []) : collapseSpaces t ≠ [] := by
  intro hnil
  have hhead := head?_collapseSpaces t
  rw [hnil] at hhead
  exact h (List.head?_eq_none_iff.mp hhead.symm)

theorem length_collapseSpaces_le (t : Text) : (collapseSpaces t).length ≤ t.length := by
  induction t using spaces_induction with
  | nil => exact Nat.le_refl _
  | run t ih => exact Nat.le_succ_of_le ih
  | char c t h ih =>
      rw [collapseSpaces_cons_of_not h]
      exact Nat.succ_le_succ ih

theorem mem_of_mem_collapseSpaces {t : Text} {c : Char} (h : c ∈ collapseSpaces t) : c ∈ t := by
  induction t using spaces_induction with
  | nil => exact h
  | run t ih => exact List.mem_cons_of_mem _ (ih h)
  | char d t hd ih =>
      rw [collapseSpaces_cons_of_not hd, List.mem_cons] at h
      exact List.mem_cons.mpr (h.imp_right ih)

/-- No run of spaces is left. -/
theorem not_twoSpaces_collapseSpaces (t : Text) : ¬ twoSpaces <:+: collapseSpaces t := by
  induction t using spaces_induction with
  | nil => decide
  | run t ih => exact ih
  | char c t h ih =>
      rw [collapseSpaces_cons_of_not h, List.infix_cons_iff, not_or]
      refine ⟨?_, ih⟩
      -- The next character is the same before and after, so a run here was one before.
      rintro ⟨rest, hrest⟩
      obtain ⟨rfl, hnext⟩ := List.cons.inj hrest
      have hhead := head?_collapseSpaces t
      rw [← hnext] at hhead
      obtain ⟨more, rfl⟩ := List.head?_eq_some_iff.mp hhead.symm
      exact h ⟨more, rfl⟩

theorem collapseSpaces_eq_self {t : Text} (h : ¬ twoSpaces <:+: t) : collapseSpaces t = t := by
  induction t with
  | nil => rfl
  | cons c t ih =>
      rw [List.infix_cons_iff, not_or] at h
      rw [collapseSpaces_cons_of_not h.1, ih h.2]

/-! ### Running text -/

/-- Running text: one line without two spaces together, of which the ends show. -/
structure IsRunning (t : Text) : Prop where
  oneLine : '\n' ∉ t
  single : ¬ twoSpaces <:+: t
  first : ∀ c ∈ t.head?, Unicode.isWhiteSpace c = false
  last : ∀ c ∈ t.getLast?, Unicode.isWhiteSpace c = false

theorem IsRunning.trim_eq {t : Text} (h : IsRunning t) : trim t = t :=
  trim_eq_self h.first h.last

theorem isRunning_collapseSpaces {t : Text} (hline : '\n' ∉ t)
    (hends : (∀ c ∈ t.head?, Unicode.isWhiteSpace c = false) ∧
      ∀ c ∈ t.getLast?, Unicode.isWhiteSpace c = false) : IsRunning (collapseSpaces t) where
  oneLine := fun h => hline (mem_of_mem_collapseSpaces h)
  single := not_twoSpaces_collapseSpaces t
  first := by
    rw [head?_collapseSpaces]
    exact hends.1
  last := by
    rw [getLast?_collapseSpaces]
    exact hends.2

/-- Values put together show at both ends, whatever stands between them. -/
theorem join_ends (separator : Text) {pieces : List Text}
    (h : ∀ piece ∈ pieces, IsValue piece) :
    (∀ c ∈ (join separator pieces).head?, Unicode.isWhiteSpace c = false) ∧
      ∀ c ∈ (join separator pieces).getLast?, Unicode.isWhiteSpace c = false := by
  induction pieces with
  | nil => simp [join]
  | cons piece pieces ih =>
      rw [List.forall_mem_cons] at h
      by_cases hnil : pieces = []
      · rw [hnil, show join separator [piece] = piece by simp [join]]
        exact ⟨h.1.first, h.1.last⟩
      · obtain ⟨next, more, rfl⟩ := List.exists_cons_of_ne_nil hnil
        have hne := join_ne_nil separator (h.2 next List.mem_cons_self).nonempty more
        rw [join_cons_cons, List.head?_append_of_ne_nil _ h.1.nonempty, ← List.append_assoc,
          List.getLast?_append_of_ne_nil _ hne]
        exact ⟨h.1.first, (ih h.2).2⟩

end Text

/-! ### The pieces of a detail -/

/-- What cleaning leaves of the lines of a block. -/
def detailPieces (lead block : Text) : List Text :=
  ((Text.lines block).map fun line => Text.trim (dropLead lead line)).filter (!·.isEmpty)

theorem cleanDetail_eq (lead block : Text) :
    cleanDetail lead block = Text.collapseSpaces (Text.join [' '] (detailPieces lead block)) :=
  rfl

theorem dropLead_append (lead rest : Text) : dropLead lead (lead ++ rest) = rest := by
  rw [dropLead, Text.after?_append, Option.getD_some]

theorem dropLead_of_not {lead line : Text} (h : ¬ lead <+: line) : dropLead lead line = line := by
  unfold dropLead
  cases hafter : Text.after? lead line with
  | none => rfl
  | some rest => exact absurd ⟨rest, (Text.after?_eq_some_iff.mp hafter).symm⟩ h

theorem mem_of_mem_dropLead {lead line : Text} {c : Char} (h : c ∈ dropLead lead line) :
    c ∈ line := by
  by_cases hlead : lead <+: line
  · obtain ⟨rest, rfl⟩ := hlead
    rw [dropLead_append] at h
    exact List.mem_append_right _ h
  · rwa [dropLead_of_not hlead] at h

/-- A piece is cut out of a line of the block, and it is a value. -/
theorem mem_detailPieces {lead block piece : Text} (h : piece ∈ detailPieces lead block) :
    IsValue piece ∧ ∃ line ∈ Text.lines block, ∀ c ∈ piece, c ∈ line := by
  obtain ⟨hmap, hne⟩ := List.mem_filter.mp h
  obtain ⟨line, hline, rfl⟩ := List.mem_map.mp hmap
  have hmem : ∀ c ∈ Text.trim (dropLead lead line), c ∈ line :=
    fun c hc => mem_of_mem_dropLead (Text.mem_of_mem_trim hc)
  refine ⟨⟨by simpa using hne, ?_, (Text.trim_ends _).1, (Text.trim_ends _).2⟩, line, hline, hmem⟩
  intro hc
  exact Text.newline_notMem_of_mem_lines hline (hmem _ hc)

theorem mem_of_mem_cleanDetail {lead block : Text} {c : Char} (h : c ∈ cleanDetail lead block) :
    c = ' ' ∨ ∃ line ∈ Text.lines block, c ∈ line := by
  rcases Text.mem_join (Text.mem_of_mem_collapseSpaces h) with hsep | ⟨piece, hpiece, hc⟩
  · exact Or.inl (List.mem_singleton.mp hsep)
  · obtain ⟨-, line, hline, hmem⟩ := mem_detailPieces hpiece
    exact Or.inr ⟨line, hline, hmem c hc⟩

/-! ### Cleaning -/

/-- **Cleaning leaves running text.** -/
theorem isRunning_cleanDetail (lead block : Text) : Text.IsRunning (cleanDetail lead block) := by
  rw [cleanDetail_eq]
  refine Text.isRunning_collapseSpaces ?_ (Text.join_ends _ fun _ h => (mem_detailPieces h).1)
  intro hc
  rcases Text.mem_join hc with hsep | ⟨piece, hpiece, hc⟩
  · exact absurd hsep (by decide)
  · exact (mem_detailPieces hpiece).1.oneLine hc

/-- Of running text only the lead is taken off, and what is behind it is trimmed and collapsed. -/
theorem cleanDetail_of_isRunning {t : Text} (ht : Text.IsRunning t) (lead : Text) :
    cleanDetail lead t = Text.collapseSpaces (Text.trim (dropLead lead t)) := by
  by_cases hnil : t = []
  · have hnone : dropLead lead [] = [] := by
      refine List.eq_nil_iff_forall_not_mem.mpr fun c hc => ?_
      exact absurd (mem_of_mem_dropLead hc) List.not_mem_nil
    rw [hnil, hnone]
    rfl
  · rw [cleanDetail_eq, detailPieces, Text.lines_of_no_newline hnil ht.oneLine]
    by_cases hempty : Text.trim (dropLead lead t) = []
    · simp [hempty, Text.join]
    · simp [hempty, Text.join]

/-- **Running text is cleaned already exactly if there is no lead or it does not begin with it.** -/
theorem cleanDetail_eq_self_iff {t : Text} (ht : Text.IsRunning t) (lead : Text) :
    cleanDetail lead t = t ↔ lead = [] ∨ ¬ lead <+: t := by
  rw [cleanDetail_of_isRunning ht]
  constructor
  · intro h
    by_contra hboth
    rw [not_or, not_not] at hboth
    obtain ⟨hlead, rest, rfl⟩ := hboth
    -- The lead is gone and nothing comes in its place.
    have hshort : (Text.collapseSpaces (Text.trim rest)).length ≤ rest.length :=
      (Text.length_collapseSpaces_le _).trans (Text.length_trim_le rest)
    rw [dropLead_append] at h
    rw [h, List.length_append] at hshort
    have := List.length_pos_iff.mpr hlead
    omega
  · intro h
    have hkept : dropLead lead t = t := by
      rcases h with rfl | h
      · exact dropLead_append [] t
      · exact dropLead_of_not h
    rw [hkept, ht.trim_eq, Text.collapseSpaces_eq_self ht.single]

/-- **Cleaning gives running text, and cleaning that again with the same lead changes nothing
exactly if the lead is empty or the text does not begin with it.**  With a lead that begins with a
blank, as under an indent, it never changes anything. -/
theorem cleanDetail_again_iff (lead block : Text) :
    Text.IsRunning (cleanDetail lead block) ∧
    (cleanDetail lead (cleanDetail lead block) = cleanDetail lead block ↔
      lead = [] ∨ ¬ lead <+: cleanDetail lead block) ∧
    ∀ c rest, lead = c :: rest → Text.isBlank c = true →
      cleanDetail lead (cleanDetail lead block) = cleanDetail lead block := by
  have hrunning := isRunning_cleanDetail lead block
  have hiff := cleanDetail_eq_self_iff hrunning lead
  refine ⟨hrunning, hiff, ?_⟩
  intro c rest hlead hc
  refine hiff.mpr (Or.inr ?_)
  rintro ⟨more, hmore⟩
  have hshows : Unicode.isWhiteSpace c = false := by
    refine hrunning.first c ?_
    rw [← hmore, hlead]
    rfl
  rw [Text.whiteSpace_of_blank hc] at hshows
  exact absurd hshows (by decide)

/-- A text that begins with the number sign is taken for a line with the lead the second time,
unless the lead has an indent. -/
theorem cleanDetail_again_iff_number_sign :
    let flush := "#  #1  priority\r\n#\n#\titem \n".toList
    let indented := " #  #1  priority\r\n #\n #\titem \n".toList
    cleanDetail ['#'] flush = "#1 priority item".toList ∧
      cleanDetail ['#'] (cleanDetail ['#'] flush) ≠ cleanDetail ['#'] flush ∧
      cleanDetail [' ', '#'] indented = "#1 priority item".toList ∧
      cleanDetail [' ', '#'] (cleanDetail [' ', '#'] indented) =
        cleanDetail [' ', '#'] indented := by
  intro flush indented
  have hflush : cleanDetail ['#'] flush = "#1 priority item".toList := by decide +kernel
  have hindented : cleanDetail [' ', '#'] indented = "#1 priority item".toList := by
    decide +kernel
  obtain ⟨-, hiff, -⟩ := cleanDetail_again_iff ['#'] flush
  obtain ⟨-, -, hblank⟩ := cleanDetail_again_iff [' ', '#'] indented
  refine ⟨hflush, ?_, hindented, hblank ' ' ['#'] rfl (by decide)⟩
  rw [Ne, hiff, hflush]
  decide

end AnnotationLog
