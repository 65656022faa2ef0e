/-
Where the characters of an annotation come from.

Everything an annotation captures is cut out of lines of the text: the title and
the ratings out of one line each, the detail out of the lines under them, with a
line feed behind each.  So a character that the text does not have, the line feed
aside, is in none of its annotations.
-/
import AnnotationLog.Kind.Basic
import AnnotationLog.Proofs.Annotation.Block
import AnnotationLog.Proofs.Annotation.Spelling
import AnnotationLog.Proofs.Text.Line

namespace AnnotationLog

/-- Everything that was captured is made of characters with a property, and of line feeds in the
detail. -/
structure Fields.From (f : Fields) (p : Char → Prop) : Prop where
  title : ∀ c ∈ f.title, p c
  quality : ∀ q ∈ f.quality, ∀ c ∈ q, p c
  impact : ∀ q ∈ f.impact, ∀ c ∈ q, p c
  detail : ∀ c ∈ f.detail, p c ∨ c = '\n'

theorem Fields.From.mono {f : Fields} {p q : Char → Prop} (hpq : ∀ c, p c → q c) (h : f.From p) :
    f.From q where
  title c hc := hpq c (h.title c hc)
  quality x hx c hc := hpq c (h.quality x hx c hc)
  impact x hx c hc := hpq c (h.impact x hx c hc)
  detail c hc := (h.detail c hc).imp_left (hpq c)

/-! ### Labels -/

/-- What follows some words is the end of the text. -/
theorem Keyword.suffix_of_afterWords? {words : List Text} {t rest : Text}
    (h : afterWords? words t = some rest) : rest <:+ t := by
  have hword : ∀ {word t rest : Text}, afterWord? word t = some rest → rest <:+ t := by
    intro word t rest h
    obtain ⟨written, rfl, -⟩ := afterWord?_eq_some_iff.mp h
    exact List.suffix_append written rest
  fun_induction afterWords? words t with
  | case1 t =>
      obtain rfl := Option.some.inj h
      exact List.suffix_rfl
  | case2 t word => exact hword h
  | case3 t word words _ c tail hfirst hc ih =>
      have htail : tail.dropWhile Text.isBlank <:+ c :: tail :=
        (List.dropWhile_suffix _).trans (List.suffix_cons c tail)
      exact (ih h).trans (htail.trans (hword hfirst))
  | case4 => simp at h
  | case5 => simp at h

/-- The value of a label is cut out of the text behind the keyword. -/
theorem mem_of_mem_labelValue? {keywords : List Keyword} {t value : Text}
    (h : labelValue? keywords t = some value) {c : Char} (hc : c ∈ value) : c ∈ t := by
  obtain ⟨k, -, hk⟩ := List.exists_of_findSome?_eq_some h
  obtain ⟨rest, hafter, hvalue⟩ := Option.bind_eq_some_iff.mp hk
  obtain ⟨gap, behind, rfl, -, -, rfl⟩ := valueAfterColon?_eq_some_iff.mp hvalue
  obtain ⟨space, -, ht⟩ := dropSpace_split t
  rw [ht]
  refine List.mem_append_right _ ((Keyword.suffix_of_afterWords? hafter).subset ?_)
  exact List.mem_append_right _ (List.mem_cons_of_mem _ (Text.mem_of_mem_trim hc))

theorem mem_of_mem_rating? {lead line value : Text} {keywords : List Keyword}
    (h : Grammar.rating? lead keywords line = some value) {c : Char} (hc : c ∈ value) :
    c ∈ line := by
  unfold Grammar.rating? at h
  split at h
  · rename_i rest hrest
    rw [Text.after?_eq_some_iff.mp hrest]
    exact List.mem_append_right _ (mem_of_mem_labelValue? h hc)
  · simp at h

/-! ### Blocks -/

variable {g : Grammar} {ls : List Text}

theorem ratings?_from {lead : Text} {below rest : List Text} {quality impact : Option Text}
    (h : g.ratings? lead below = some (quality, impact, rest)) :
    (∀ q ∈ quality, ∀ c ∈ q, ∃ line ∈ below, c ∈ line) ∧
      (∀ q ∈ impact, ∀ c ∈ q, ∃ line ∈ below, c ∈ line) ∧ ∀ line ∈ rest, line ∈ below := by
  unfold Grammar.ratings? at h
  split at h
  · split at h
    · rename_i first second tail
      simp only [Option.bind_eq_bind, Option.pure_def, Option.bind_eq_some_iff, Option.some.injEq,
        Prod.mk.injEq] at h
      obtain ⟨q, hq, i, hi, rfl, rfl, rfl⟩ := h
      refine ⟨?_, ?_, fun line hline => by simp [hline]⟩
      · intro q' hq' c hc
        obtain rfl : q = q' := by simpa using hq'
        exact ⟨first, by simp, mem_of_mem_rating? hq hc⟩
      · intro i' hi' c hc
        obtain rfl : i = i' := by simpa using hi'
        exact ⟨second, by simp, mem_of_mem_rating? hi hc⟩
    · simp at h
  · simp only [Option.some.injEq, Prod.mk.injEq] at h
    obtain ⟨rfl, rfl, rfl⟩ := h
    exact ⟨by simp, by simp, fun line hline => hline⟩

theorem blockAt?_from {b : Block} (h : g.blockAt? ls = some b) :
    b.fields.From fun c => ∃ line ∈ ls, c ∈ line := by
  cases ls with
  | nil => simp [Grammar.blockAt?_nil] at h
  | cons line below =>
      obtain ⟨indent, title, quality, impact, rest, hheader, hratings, -, rfl⟩ :=
        Grammar.blockAt?_eq_some_iff.mp h
      obtain ⟨-, behind, hline, hvalue⟩ := Grammar.header?_eq_some_iff.mp hheader
      obtain ⟨hquality, himpact, hrest⟩ := ratings?_from hratings
      have hbelow : ∀ c, (∃ l ∈ below, c ∈ l) → ∃ l ∈ line :: below, c ∈ l := by
        rintro c ⟨l, hl, hc⟩
        exact ⟨l, List.mem_cons_of_mem _ hl, hc⟩
      refine ⟨?_, ?_, ?_, ?_⟩
      · intro c hc
        refine ⟨line, List.mem_cons_self, ?_⟩
        rw [hline]
        exact List.mem_append_right _
          (List.mem_append_right _ (mem_of_mem_labelValue? hvalue hc))
      · exact fun q hq c hc => hbelow c (hquality q hq c hc)
      · exact fun q hq c hc => hbelow c (himpact q hq c hc)
      · intro c hc
        rcases Text.mem_unlines hc with ⟨l, hl, hc⟩ | hc
        · have hl' := (List.takeWhile_prefix _).subset hl
          exact Or.inl (hbelow c ⟨l, hrest l hl', hc⟩)
        · exact Or.inr hc

theorem scanFrom_from {start : Nat} {s : Span} (h : s ∈ g.scanFrom start ls) :
    s.fields.From fun c => ∃ line ∈ ls, c ∈ line := by
  fun_induction g.scanFrom start ls with
  | case1 => simp at h
  | case2 start line below b hb ih =>
      rcases List.mem_cons.mp h with rfl | h
      · exact blockAt?_from hb
      · refine (ih h).mono ?_
        rintro c ⟨l, hl, hc⟩
        exact ⟨l, List.mem_cons_of_mem _ (List.mem_of_mem_drop hl), hc⟩
  | case3 start line below hb ih =>
      refine (ih h).mono ?_
      rintro c ⟨l, hl, hc⟩
      exact ⟨l, List.mem_cons_of_mem _ hl, hc⟩

/-! ### Texts -/

theorem mem_of_mem_keepDisjoint {free : Nat} {cs : List Candidate} {c : Candidate}
    (h : c ∈ keepDisjoint free cs) : c ∈ cs := by
  induction cs generalizing free with
  | nil => simp [keepDisjoint] at h
  | cons d cs ih =>
      rw [keepDisjoint] at h
      split at h
      · rcases List.mem_cons.mp h with rfl | h
        · exact List.mem_cons_self
        · exact List.mem_cons_of_mem _ (ih h)
      · exact List.mem_cons_of_mem _ (ih h)

/-- Whatever a kind finds, one of its grammars finds. -/
theorem exists_span_of_mem_find {k : Kind} {text : Text} {f : Fields} (h : f ∈ k.find text) :
    ∃ g ∈ k.grammars, ∃ s ∈ g.scan text, s.fields = f := by
  obtain ⟨c, hc, rfl⟩ := List.mem_map.mp h
  have hcand := List.mem_mergeSort.mp (mem_of_mem_keepDisjoint hc)
  obtain ⟨⟨g, rank⟩, hg, hspan⟩ := List.mem_flatMap.mp hcand
  obtain ⟨s, hs, rfl⟩ := List.mem_map.mp hspan
  exact ⟨g, List.mem_of_getElem? (List.mem_zipIdx_iff_getElem?.mp hg), s, hs, rfl⟩

/-- **What a kind finds is made of characters of the lines of the text.** -/
theorem find_from_lines {k : Kind} {text : Text} {f : Fields} (h : f ∈ k.find text) :
    f.From fun c => ∃ line ∈ Text.lines text, c ∈ line := by
  obtain ⟨g, -, s, hs, rfl⟩ := exists_span_of_mem_find h
  exact scanFrom_from hs

theorem find_from {k : Kind} {text : Text} {f : Fields} (h : f ∈ k.find text) :
    f.From (· ∈ text) := by
  refine (find_from_lines h).mono ?_
  rintro c ⟨line, hline, hc⟩
  exact Text.mem_of_mem_lines hline hc

end AnnotationLog
