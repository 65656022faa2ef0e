/-
Texts with other line ends.

A line may end in a line feed or in a carriage return and a line feed.  Which of the
two it is does not matter to any kind, also where both stand in one text: the lines
are the same, and a text is searched line by line.  All it takes is that the text has
no carriage return where one is added, because only one goes with a line feed.
-/
import AnnotationLog.Kind.Builtin
import AnnotationLog.Proofs.Annotation.OnePass
import AnnotationLog.Proofs.Text.Line
import AnnotationLog.Session

namespace AnnotationLog

namespace Text

/-- A text with a carriage return in front of some of its line feeds: the first if `chosen 0`, the
next if `chosen 1`, and so on. -/
def addReturns (chosen : Nat → Bool) : Text → Text
  | [] => []
  | c :: t =>
    if c = '\n' then
      (if chosen 0 then ['\r', '\n'] else ['\n']) ++ addReturns (fun n => chosen (n + 1)) t
    else c :: addReturns chosen t

theorem addReturns_newline (chosen : Nat → Bool) (t : Text) :
    addReturns chosen ('\n' :: t) =
      (if chosen 0 then ['\r', '\n'] else ['\n']) ++ addReturns (fun n => chosen (n + 1)) t := by
  rw [addReturns, if_pos rfl]

theorem addReturns_cons (chosen : Nat → Bool) {c : Char} (hc : c ≠ '\n') (t : Text) :
    addReturns chosen (c :: t) = c :: addReturns chosen t := by
  rw [addReturns, if_neg hc]

/-- No line feed gets to the front. -/
theorem head?_of_head?_addReturns {chosen : Nat → Bool} {t : Text}
    (h : (addReturns chosen t).head? = some '\n') : t.head? = some '\n' := by
  cases t with
  | nil => simp [addReturns] at h
  | cons c t =>
      by_cases hc : c = '\n'
      · rw [hc, List.head?_cons]
      · rw [addReturns_cons chosen hc] at h
        exact h

/-- **The lines of a text do not depend on its line ends.** -/
theorem lines_addReturns (chosen : Nat → Bool) {t : Text} (ht : ¬ ['\r', '\n'] <:+: t) :
    lines (addReturns chosen t) = lines t := by
  induction t generalizing chosen with
  | nil => rfl
  | cons c t ih =>
      have htail : ¬ ['\r', '\n'] <:+: t := fun h => ht (h.trans (List.suffix_cons c t).isInfix)
      by_cases hc : c = '\n'
      · subst hc
        rw [addReturns_newline]
        by_cases hchosen : chosen 0 = true
        · rw [if_pos hchosen]
          exact congrArg ([] :: ·) (ih _ htail)
        · rw [if_neg hchosen]
          exact congrArg ([] :: ·) (ih _ htail)
      · -- A carriage return that ends no line is an ordinary character, and it still ends none.
        have hnext : c = '\r' → t.head? ≠ some '\n' := by
          intro hcr hhead
          obtain ⟨rest, rfl⟩ := List.head?_eq_some_iff.mp hhead
          exact ht (hcr ▸ ⟨[], rest, rfl⟩)
        rw [addReturns_cons chosen hc, lines_cons hc hnext, lines_cons hc, ih chosen htail]
        exact fun hcr hhead => hnext hcr (head?_of_head?_addReturns hhead)

end Text

/-- A grammar reads a text line by line. -/
theorem Grammar.scan_congr {t u : Text} (h : Text.lines t = Text.lines u) (g : Grammar) :
    g.scan t = g.scan u := by
  rw [scan, scan, h]

theorem Kind.find_congr {t u : Text} (h : Text.lines t = Text.lines u) (k : Kind) :
    k.find t = k.find u := by
  simp only [find, matchGrammars, mergedCandidates, candidates, Grammar.scan_congr h]

theorem Session.scan_congr {t u : Text} (h : Text.lines t = Text.lines u) (s : Session)
    (r : Registry) (path : Path) : s.scan r path t = s.scan r path u := by
  simp only [scan, Kind.find_congr h]

/-- **No kind can tell line ends apart.**  A carriage return is put in front of any of the line
feeds of a text, of which none has one already, as in a text without carriage returns.  Then every
kind finds the same annotations with the same fields, and a session that scans the text writes the
same entries for all its kinds. -/
theorem find_addReturns {t : Text} (ht : ¬ ['\r', '\n'] <:+: t) (chosen : Nat → Bool) :
    (∀ k : Kind, k.find (Text.addReturns chosen t) = k.find t) ∧
      ∀ (r : Registry) (s : Session) (path : Path),
        (s.scan r path (Text.addReturns chosen t)).finalize r = (s.scan r path t).finalize r := by
  have hlines := Text.lines_addReturns chosen ht
  refine ⟨Kind.find_congr hlines, ?_⟩
  intro r s path
  rw [Session.scan_congr hlines]

/-- An assumption without a line end behind it, where every other line end gets a carriage
return. -/
theorem find_addReturns_mixed :
    let k := BuiltinKind.assumption.kind
    let t := "# Assume: a\n# Q: x\n# I: y \n# b \n#\n# c".toList
    let mixed := "# Assume: a\r\n# Q: x\n# I: y \r\n# b \n#\r\n# c".toList
    '\r' ∉ t ∧ Text.addReturns (fun n => n % 2 = 0) t = mixed ∧
      (k.find mixed).map Fields.detail = ["# b \n#\n# c\n".toList] ∧
      k.find mixed = k.find t ∧
      let r : Registry := { kinds := [k] }
      (Session.empty.scan r [] mixed).finalize r = (Session.empty.scan r [] t).finalize r := by
  intro k t mixed
  have hreturn : '\r' ∉ t := by decide +kernel
  have hmixed : Text.addReturns (fun n => n % 2 = 0) t = mixed := by decide +kernel
  obtain ⟨hfind, hscan⟩ := find_addReturns (fun h => hreturn (h.subset (by simp)))
    (fun n => n % 2 = 0)
  rw [hmixed] at hfind hscan
  refine ⟨hreturn, hmixed, ?_, hfind k, hscan _ _ _⟩
  rw [Kind.find, matchGrammars_eq_map_readOnce (apostropheFree_builtin .assumption)]
  decide +kernel

end AnnotationLog
