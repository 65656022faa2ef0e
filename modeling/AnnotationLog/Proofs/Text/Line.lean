/-
Cutting a text into lines and putting lines together.

A line feed cuts, and one carriage return right before it goes with it.  So lines
that hold no line feed and do not end in a carriage return come back as they were
when they are written out and cut again.
-/
import AnnotationLog.Text.Line
import Mathlib.Tactic.Common

namespace AnnotationLog.Text

/-- A piece of text that cutting gives back whole: no line feed in it, no carriage return at its
end. -/
def IsLine (t : Text) : Prop :=
  '\n' ∉ t ∧ t.getLast? ≠ some '\r'

theorem lines_cons {c : Char} {t : Text} (hc : c ≠ '\n') (hcr : c = '\r' → t.head? ≠ some '\n') :
    lines (c :: t) = (match lines t with
      | [] => [[c]]
      | line :: rest => (c :: line) :: rest) := by
  refine lines.eq_4 c t hc ?_
  intro rest hr ht
  exact hcr hr (by simp [ht])

/-- A line in front of a line feed is cut off as it is. -/
theorem lines_append_newline {line : Text} (hline : IsLine line) (rest : Text) :
    lines (line ++ '\n' :: rest) = line :: lines rest := by
  induction line with
  | nil => rfl
  | cons c line ih =>
      obtain ⟨hnl, hcr⟩ := hline
      have hc : c ≠ '\n' := fun h => hnl (by simp [h])
      have htail : lines (line ++ '\n' :: rest) = line :: lines rest := by
        refine ih ⟨fun h => hnl (by simp [h]), ?_⟩
        intro hlast
        exact hcr (by rw [List.getLast?_cons, hlast]; rfl)
      rw [List.cons_append, lines_cons hc, htail]
      intro hr hhead
      cases line with
      | nil => exact hcr (by simp [hr])
      | cons d line =>
          simp only [List.cons_append, List.head?_cons, Option.some.injEq] at hhead
          exact hnl (by simp [hhead])

theorem lines_eq_nil_iff {t : Text} : lines t = [] ↔ t = [] := by
  fun_cases lines t <;> simp_all

theorem lines_of_no_newline {t : Text} (hne : t ≠ []) (ht : '\n' ∉ t) : lines t = [t] := by
  induction t with
  | nil => exact absurd rfl hne
  | cons c t ih =>
      rw [List.mem_cons, not_or] at ht
      have hnext : t.head? ≠ some '\n' := by
        intro h
        exact ht.2 (List.mem_of_head? h)
      rw [lines_cons (Ne.symm ht.1) fun _ => hnext]
      by_cases hnil : t = []
      · rw [hnil]
        rfl
      · rw [ih hnil ht.2]

/-- A line feed behind a text that does not end in a carriage return ends the last line of the text
or, if that has ended, makes an empty line. -/
theorem lines_append_break {t : Text} (ht : t.getLast? ≠ some '\r') (rest : Text) :
    ∃ gap, (gap = [] ∨ gap = [[]]) ∧
      lines (t ++ '\n' :: rest) = lines t ++ (gap ++ lines rest) := by
  have htail : ∀ {c : Char} {cs : Text}, (c :: cs).getLast? ≠ some '\r' →
      cs.getLast? ≠ some '\r' := by
    intro c cs hcs hlast
    exact hcs (by rw [List.getLast?_cons, hlast]; rfl)
  fun_induction lines t with
  | case1 => exact ⟨[[]], Or.inr rfl, rfl⟩
  | case2 cs ih =>
      obtain ⟨gap, hgap, hlines⟩ := ih (htail ht)
      exact ⟨gap, hgap, by simp [lines, hlines]⟩
  | case3 cs ih =>
      obtain ⟨gap, hgap, hlines⟩ := ih (htail (htail ht))
      exact ⟨gap, hgap, by simp [lines, hlines]⟩
  | case4 c cs hc hcr hnil ih =>
      obtain rfl := lines_eq_nil_iff.mp hnil
      have hline : IsLine [c] := ⟨by simpa using Ne.symm hc, ht⟩
      exact ⟨[], Or.inl rfl, lines_append_newline hline rest⟩
  | case5 c cs hc hcr line more hcons ih =>
      obtain ⟨gap, hgap, hlines⟩ := ih (htail ht)
      obtain ⟨d, ds, rfl⟩ := List.exists_cons_of_ne_nil
        (lines_eq_nil_iff.not.mp (hcons ▸ List.cons_ne_nil line more))
      refine ⟨gap, hgap, ?_⟩
      rw [List.cons_append, lines_cons hc, hlines, hcons]
      · rfl
      · intro hr hhead
        exact hcr ds hr (by simpa using hhead)

theorem unlines_cons (line : Text) (ls : List Text) :
    unlines (line :: ls) = line ++ '\n' :: unlines ls := by
  simp [unlines]

theorem unlines_append (ls ms : List Text) : unlines (ls ++ ms) = unlines ls ++ unlines ms := by
  simp [unlines]

theorem unlines_eq_nil_iff {ls : List Text} : unlines ls = [] ↔ ls = [] := by
  cases ls <;> simp [unlines]

/-- **Lines that are written out and cut again come back.** -/
theorem lines_unlines {ls : List Text} (hls : ∀ line ∈ ls, IsLine line) :
    lines (unlines ls) = ls := by
  induction ls with
  | nil => rfl
  | cons line ls ih =>
      rw [unlines_cons, lines_append_newline (hls line (by simp)),
        ih fun l hl => hls l (by simp [hl])]

/-- A line is cut out of the text. -/
theorem mem_of_mem_lines {t line : Text} (hline : line ∈ lines t) {c : Char} (hc : c ∈ line) :
    c ∈ t := by
  fun_induction lines t generalizing line with
  | case1 => simp at hline
  | case2 cs ih =>
      rcases List.mem_cons.mp hline with rfl | hline
      · simp at hc
      · exact List.mem_cons_of_mem _ (ih hline hc)
  | case3 cs ih =>
      rcases List.mem_cons.mp hline with rfl | hline
      · simp at hc
      · exact List.mem_cons_of_mem _ (List.mem_cons_of_mem _ (ih hline hc))
  | case4 d cs _ _ hnil ih =>
      rw [List.mem_singleton.mp hline, List.mem_singleton] at hc
      rw [hc]
      exact List.mem_cons_self
  | case5 d cs _ _ first rest hcons ih =>
      rcases List.mem_cons.mp hline with rfl | hline
      · rcases List.mem_cons.mp hc with rfl | hc
        · exact List.mem_cons_self
        · exact List.mem_cons_of_mem _ (ih (hcons ▸ List.mem_cons_self) hc)
      · exact List.mem_cons_of_mem _ (ih (hcons ▸ List.mem_cons_of_mem _ hline) hc)

theorem newline_notMem_of_mem_lines {t line : Text} (hline : line ∈ lines t) : '\n' ∉ line := by
  fun_induction lines t generalizing line with
  | case1 => simp at hline
  | case2 cs ih =>
      rcases List.mem_cons.mp hline with rfl | hline
      · simp
      · exact ih hline
  | case3 cs ih =>
      rcases List.mem_cons.mp hline with rfl | hline
      · simp
      · exact ih hline
  | case4 d cs hd _ hnil ih =>
      rw [List.mem_singleton.mp hline]
      simpa using Ne.symm hd
  | case5 d cs hd _ first rest hcons ih =>
      rcases List.mem_cons.mp hline with rfl | hline
      · have hfirst : '\n' ∉ first := ih (hcons ▸ List.mem_cons_self)
        simpa [hfirst] using Ne.symm hd
      · exact ih (hcons ▸ List.mem_cons_of_mem _ hline)

theorem mem_unlines {c : Char} {ls : List Text} (h : c ∈ unlines ls) :
    (∃ line ∈ ls, c ∈ line) ∨ c = '\n' := by
  obtain ⟨line, hline, hc⟩ := List.mem_flatMap.mp h
  rcases List.mem_append.mp hc with hc | hc
  · exact Or.inl ⟨line, hline, hc⟩
  · exact Or.inr (List.mem_singleton.mp hc)

end AnnotationLog.Text
