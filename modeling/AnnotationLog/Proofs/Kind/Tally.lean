/-
Counting what stands for a kind.

Every section of a log opens with three number signs.  A way of counting that goes
line by line, does not see the white space that trimming takes away and sees those
three signs therefore tells how many sections there are: it gives the text of a kind
the sum of what it gives its entries, and each entry at least three, whatever number
the entry has.  So a log of more findings counts more.

Counting the number signs themselves is such a way, and so is counting them after a
marker has been exchanged.
-/
import AnnotationLog.Proofs.Kind.Replacement
import AnnotationLog.Proofs.Template.Substitute
import Mathlib.Algebra.GroupWithZero.Nat

namespace AnnotationLog

/-- A way of counting that goes line by line and sees the signs of a heading. -/
structure Tally (count : Text → Nat) : Prop where
  newline : ∀ x y, count (x ++ '\n' :: y) = count x + count y
  trim : ∀ t, count (Text.trim t) = count t
  heading : ∀ (b : BuiltinKind) (number : Nat) (t : Text),
    count (headingFront b.name number ++ t) = 3 + count t

namespace Tally

variable {count : Text → Nat} (h : Tally count)

include h

theorem joinLines (line : Text) (more : List Text) :
    count (Text.joinLines (line :: more)) = count line + (more.map count).sum := by
  rw [Text.joinLines_cons]
  induction more generalizing line with
  | nil => simp
  | cons next more ih =>
      rw [List.flatMap_cons, List.cons_append, h.newline, ih, List.map_cons, List.sum_cons]

/-- What an entry counts does not depend on its number, and it is at least three. -/
theorem render {b : BuiltinKind} (hb : b ≠ .todo) (number : Nat) (path : Path) (f : Fields) :
    count (b.render number path f) = count (b.render 1 path f) ∧
      3 ≤ count (b.render number path f) := by
  obtain ⟨tail, htail⟩ := render_eq hb path f
  rw [htail, htail, h.heading, h.heading]
  omega

theorem renderAll {b : BuiltinKind} (hb : b ≠ .todo) (findings : List Finding) (number : Nat) :
    (((findings.zipIdx number).map fun (f, n) => b.render n f.path f.fields).map count).sum =
      (findings.map fun f => count (b.render 1 f.path f.fields)).sum := by
  induction findings generalizing number with
  | nil => rfl
  | cons f fs ih =>
      rw [List.zipIdx_cons, List.map_cons, List.map_cons, List.map_cons, List.sum_cons,
        List.sum_cons, ih, (h.render hb number f.path f.fields).1]

/-- What stands for a kind counts as much as its entries together. -/
theorem passage {b : BuiltinKind} (hb : b ≠ .todo) (hmessage : count (Text.trim b.emptyMessage) = 0)
    (findings : List Finding) :
    count (b.passage findings) =
      (findings.map fun f => count (b.render 1 f.path f.fields)).sum := by
  cases findings with
  | nil => rw [BuiltinKind.passage_nil, hmessage, List.map_nil, List.sum_nil]
  | cons f fs =>
      have hall := h.renderAll hb (f :: fs) 1
      rw [List.zipIdx_cons, List.map_cons, List.map_cons, List.sum_cons] at hall
      rw [BuiltinKind.passage_cons, h.trim, Kind.renderAll, List.zipIdx_cons, List.map_cons,
        h.joinLines]
      exact hall

/-- More findings count more. -/
theorem passage_insert {b : BuiltinKind} (hb : b ≠ .todo)
    (hmessage : count (Text.trim b.emptyMessage) = 0) (before new behind : List Finding) :
    count (b.passage (before ++ behind)) + 3 * new.length ≤
      count (b.passage (before ++ (new ++ behind))) := by
  have hnew : 3 * new.length ≤ (new.map fun f => count (b.render 1 f.path f.fields)).sum := by
    induction new with
    | nil => simp
    | cons f fs ih =>
        have := (h.render hb 1 f.path f.fields).2
        rw [List.map_cons, List.sum_cons, List.length_cons]
        omega
  rw [h.passage hb hmessage, h.passage hb hmessage]
  simp only [List.map_append, List.sum_append]
  omega

end Tally

/-! ### Number signs -/

theorem count_headingFront (b : BuiltinKind) (number : Nat) :
    (headingFront b.name number).count '#' = 3 := by
  have hnumber : (Text.ofNat number).count '#' = 0 := by
    rw [List.count_eq_zero]
    intro hc
    exact absurd (Text.isDigit_of_mem_ofNat hc) (by decide)
  have hname : b.name.count '#' = 0 := by
    cases b <;> decide
  simp [headingFront_eq, hnumber, hname]

theorem count_of_whiteSpace {w : Text} (hw : ∀ c ∈ w, Unicode.isWhiteSpace c = true) :
    w.count '#' = 0 := by
  rw [List.count_eq_zero]
  intro hc
  exact absurd (hw _ hc) (by decide)

theorem tally_count : Tally (List.count '#') where
  newline x y := by simp
  trim t := by
    obtain ⟨w, w', ht, hw, hw'⟩ := Text.trim_split t
    conv_rhs => rw [ht]
    rw [List.count_append, List.count_append, count_of_whiteSpace hw, count_of_whiteSpace hw']
    omega
  heading b number t := by rw [List.count_append, count_headingFront]

/-- Counting after a marker was exchanged: the marker has no line feed, and white space neither
its first nor its last character. -/
theorem tally_replaceAll {body new : Text} (hnewline : '\n' ∉ body) :
    Tally fun t => (Text.replaceAll ('{' :: (body ++ ['}'])) new t).count '#' where
  newline x y := by
    have hc : '\n' ∉ '{' :: (body ++ ['}']) := by
      simpa using hnewline
    rw [Text.replaceAll_append_cons (by simp) hc]
    simp
  trim t := by
    obtain ⟨w, w', ht, hw, hw'⟩ := Text.trim_split t
    have hopen : '{' ∉ w := fun hc => absurd (hw _ hc) (by decide)
    have hclose : '}' ∉ w' := fun hc => absurd (hw' _ hc) (by decide)
    have hsplit : Text.replaceAll (('{' :: body) ++ ['}']) new (Text.trim t ++ w') = _ :=
      Text.replaceAll_append_right hclose
    conv_rhs => rw [ht, Text.replaceAll_append_of_notMem hopen]
    rw [List.cons_append] at hsplit
    rw [hsplit, List.count_append, List.count_append, count_of_whiteSpace hw,
      count_of_whiteSpace hw']
    omega
  heading b number t := by
    have hopen : '{' ∉ headingFront b.name number := by
      have hnumber : '{' ∉ Text.ofNat number :=
        fun hc => absurd (Text.isDigit_of_mem_ofNat hc) (by decide)
      have hname : '{' ∉ b.name := by
        cases b <;> decide
      simp [headingFront_eq, hnumber, hname]
    rw [Text.replaceAll_append_of_notMem hopen, List.count_append, count_headingFront]

end AnnotationLog
