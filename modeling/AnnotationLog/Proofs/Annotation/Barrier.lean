/-
An empty line is a barrier.

No line of an annotation is empty: the header has a mark, and every line under it
begins with the lead, which ends in the mark.  So a block ends at an empty line at
the latest, and which block opens at a line does not depend on anything behind the
next empty line, the two lines that a rated grammar looks ahead to included.

Hence each grammar scans the lines above and the lines below an empty line on their
own, with other line numbers below.  All that is found above comes before all that
is found below and ends before it begins, so the merge treats the two on their own
as well.
-/
import AnnotationLog.Proofs.Annotation.Merge
import Mathlib.Data.List.Perm.Basic

namespace AnnotationLog

/-- An annotation some lines further down. -/
def Span.shift (k : Nat) (s : Span) : Span :=
  { s with start := s.start + k, stop := s.stop + k }

namespace Grammar

/-! ### A block ends at an empty line -/

theorem startsWith_lead_empty (w : Text) (d : Dialect) :
    Text.startsWith (w ++ d.mark) [] = false := by
  rw [Bool.eq_false_iff, ne_eq, Text.startsWith_iff, List.prefix_nil]
  cases d <;> simp [Dialect.mark]

theorem rating?_empty (w : Text) (d : Dialect) (keywords : List Keyword) :
    rating? (w ++ d.mark) keywords [] = none := by
  cases h : rating? (w ++ d.mark) keywords [] with
  | none => rfl
  | some value =>
      have hlead := startsWith_of_rating? h
      rw [startsWith_lead_empty] at hlead
      simp at hlead

variable {g : Grammar}

theorem header?_empty (g : Grammar) : g.header? [] = none := by
  cases h : g.header? [] with
  | none => rfl
  | some found =>
      have hlead := startsWith_of_header? h
      rw [startsWith_lead_empty] at hlead
      simp at hlead

/-- Ratings are never read across an empty line. -/
theorem ratings?_append_empty (w : Text) (below rest : List Text) :
    g.ratings? (w ++ g.dialect.mark) (below ++ [] :: rest) =
      (g.ratings? (w ++ g.dialect.mark) below).map
        fun (quality, impact, more) => (quality, impact, more ++ [] :: rest) := by
  unfold ratings?
  by_cases hrated : g.rated = true
  · simp only [if_pos hrated]
    match below with
    | [] => cases rest <;> simp [rating?_empty]
    | [first] => simp [rating?_empty]
    | first :: second :: more =>
        simp only [List.cons_append]
        cases rating? (w ++ g.dialect.mark) qualityKeywords first with
        | none => rfl
        | some quality => cases rating? (w ++ g.dialect.mark) impactKeywords second <;> rfl
  · simp only [if_neg hrated, Option.map_some]

/-- A run of lines with a property stops at a line without it. -/
theorem takeWhile_append_stop {p : Text → Bool} {line : Text} (hline : p line = false)
    (ls rest : List Text) : (ls ++ line :: rest).takeWhile p = ls.takeWhile p := by
  induction ls with
  | nil => simp [hline]
  | cons first ls ih => simp only [List.cons_append, List.takeWhile_cons, ih]

/-- **Which block opens at a line depends on the lines up to the next empty one alone.** -/
theorem blockAt?_append_empty (g : Grammar) (ls rest : List Text) :
    g.blockAt? (ls ++ [] :: rest) = g.blockAt? ls := by
  cases ls with
  | nil => simp [blockAt?, header?_empty]
  | cons line below =>
      simp only [List.cons_append, blockAt?]
      cases g.header? line with
      | none => rfl
      | some found =>
          obtain ⟨indent, title⟩ := found
          simp only [ratings?_append_empty]
          cases g.ratings? (indent ++ g.dialect.mark) below with
          | none => rfl
          | some ratings =>
              simp only [Option.map_some,
                takeWhile_append_stop (startsWith_lead_empty indent g.dialect)]

/-! ### A scan of two parts -/

theorem height_le_of_blockAt? {ls : List Text} {b : Block} (h : g.blockAt? ls = some b) :
    b.height ≤ ls.length := by
  rw [height_of_blockAt? h]
  exact (List.takeWhile_prefix _).length_le

/-- **The lines above an empty line and those below it are scanned on their own.** -/
theorem scanFrom_append_empty (g : Grammar) (start : Nat) (ls rest : List Text) :
    g.scanFrom start (ls ++ [] :: rest) =
      g.scanFrom start ls ++ g.scanFrom (start + ls.length + 1) rest := by
  fun_induction g.scanFrom start ls with
  | case1 start =>
      have hnone : g.blockAt? ([] :: rest) = none := g.blockAt?_append_empty [] rest
      simp [scanFrom_of_none hnone]
  | case2 start line below b hb ih =>
      have hle := height_le_of_blockAt? hb
      have hpos := height_pos_of_blockAt? hb
      have hsame : g.blockAt? (line :: (below ++ [] :: rest)) = some b :=
        (g.blockAt?_append_empty (line :: below) rest).trans hb
      rw [drop_height hb] at ih ⊢
      rw [List.cons_append, scanFrom_of_some hsame, ← List.cons_append,
        List.drop_append_of_le_length hle, ih, List.cons_append, List.length_drop,
        show start + b.height + ((line :: below).length - b.height) = start + (line :: below).length
          by omega]
  | case3 start line below hb ih =>
      have hsame : g.blockAt? (line :: (below ++ [] :: rest)) = none :=
        (g.blockAt?_append_empty (line :: below) rest).trans hb
      rw [List.cons_append, scanFrom_of_none hsame, ih, List.length_cons,
        show start + 1 + below.length = start + (below.length + 1) by omega]

theorem scanFrom_shift (g : Grammar) (k start : Nat) (ls : List Text) :
    g.scanFrom (start + k) ls = (g.scanFrom start ls).map (Span.shift k) := by
  fun_induction g.scanFrom start ls with
  | case1 start => simp [scanFrom]
  | case2 start line below b hb ih =>
      rw [drop_height hb] at ih ⊢
      rw [scanFrom_of_some hb, List.map_cons, ← ih,
        show start + k + b.height = start + b.height + k by omega]
      rfl
  | case3 start line below hb ih =>
      rw [scanFrom_of_none hb, ← ih, show start + k + 1 = start + 1 + k by omega]

end Grammar

/-! ### A merge of two parts -/

theorem keepDisjoint_append {free : Nat} {above below : List Candidate}
    (hapart : ∀ a ∈ above, ∀ b ∈ below, a.span.stop ≤ b.span.start)
    (hfree : ∀ b ∈ below, free ≤ b.span.start) :
    keepDisjoint free (above ++ below) = keepDisjoint free above ++ keepDisjoint 0 below := by
  induction above generalizing free with
  | nil => exact keepDisjoint_of_le _ _ hfree fun _ _ => Nat.zero_le _
  | cons a above ih =>
      have hrest : ∀ c ∈ above, ∀ b ∈ below, c.span.stop ≤ b.span.start :=
        fun c hc => hapart c (by simp [hc])
      simp only [List.cons_append, keepDisjoint]
      split
      · rw [ih hrest (hapart a (by simp)), List.cons_append]
      · exact ih hrest hfree

variable {grammars : List Grammar}

theorem candidatesFrom_append {ls above below : List Text} {m : Nat}
    (hscan : ∀ g ∈ grammars, g.scanFrom 0 ls = g.scanFrom 0 above ++ g.scanFrom m below) :
    (candidatesFrom grammars 0 above ++ candidatesFrom grammars m below).Perm
      (candidatesFrom grammars 0 ls) := by
  have hsame : candidatesFrom grammars 0 ls = grammars.zipIdx.flatMap fun p =>
      (p.1.scanFrom 0 above).map (fun span => { rank := p.2, span }) ++
        (p.1.scanFrom m below).map fun span => { rank := p.2, span } := by
    unfold candidatesFrom
    refine List.flatMap_congr ?_
    rintro ⟨g, rank⟩ hg
    have hmem : g ∈ grammars := List.mem_of_getElem? (List.mem_zipIdx_iff_getElem?.mp hg)
    simp only [hscan g hmem, List.map_append]
  rw [hsame]
  exact List.flatMap_append_perm _ _ _

/-- **If every scan falls into two parts that lie apart, so does the merge.** -/
theorem mergedFrom_append {ls above below : List Text} {m : Nat} (hm : above.length ≤ m)
    (hscan : ∀ g ∈ grammars, g.scanFrom 0 ls = g.scanFrom 0 above ++ g.scanFrom m below) :
    mergedFrom grammars 0 ls = mergedFrom grammars 0 above ++ mergedFrom grammars m below := by
  have hapart : ∀ a ∈ candidatesFrom grammars 0 above, ∀ b ∈ candidatesFrom grammars m below,
      a.span.start < a.span.stop ∧ a.span.stop ≤ b.span.start := by
    intro a ha b hb
    obtain ⟨g, -, hspan⟩ := mem_candidatesFrom.mp ha
    have hblock : g.IsBlock above a.span := Grammar.isBlock_of_mem_scanFrom rfl hspan
    have hb' := (start_le_of_mem_candidatesFrom hb).1
    exact ⟨hblock.start_lt_stop, Nat.le_trans hblock.stop_le (Nat.le_trans hm hb')⟩
  -- All that was found above comes first in the order of reading.
  have hsorted : ((candidatesFrom grammars 0 above).mergeSort Candidate.le ++
      (candidatesFrom grammars m below).mergeSort Candidate.le).Pairwise
        fun a b => a.le b = true := by
    refine List.pairwise_append.mpr
      ⟨sorted_mergeSort_candidates _, sorted_mergeSort_candidates _, ?_⟩
    intro a ha b hb
    have := hapart a (List.mem_mergeSort.mp ha) b (List.mem_mergeSort.mp hb)
    exact Candidate.le_iff.mpr (Or.inl (by omega))
  have hperm := ((List.mergeSort_perm (candidatesFrom grammars 0 above) Candidate.le).append
    (List.mergeSort_perm (candidatesFrom grammars m below) Candidate.le)).trans
      (candidatesFrom_append hscan)
  rw [mergedFrom, mergeSort_candidatesFrom hperm hsorted]
  refine keepDisjoint_append ?_ fun _ _ => Nat.zero_le _
  intro a ha b hb
  exact (hapart a (List.mem_mergeSort.mp ha) b (List.mem_mergeSort.mp hb)).2

/-! ### A text of two parts -/

/-- An empty line between two texts. -/
def blankBreak : Text :=
  ['\n', '\n']

theorem lines_blankBreak {a : Text} (ha : a.getLast? ≠ some '\r') (b : Text) :
    ∃ gap, (gap = [] ∨ gap = [[]]) ∧
      Text.lines (a ++ (blankBreak ++ b)) = Text.lines a ++ [] :: (gap ++ Text.lines b) := by
  obtain ⟨gap, hgap, hlines⟩ := Text.lines_append_break ha ('\n' :: b)
  refine ⟨gap, hgap, ?_⟩
  rw [blankBreak, List.cons_append, List.singleton_append, hlines, Text.lines]
  rcases hgap with rfl | rfl <;> rfl

/-- The scan of two texts with an empty line between them.  The lower one is read some lines further
down, and by the same number for every grammar. -/
theorem scanFrom_blankBreak {a : Text} (ha : a.getLast? ≠ some '\r') (b : Text) :
    ∃ m, (Text.lines a).length ≤ m ∧ ∀ g : Grammar,
      g.scanFrom 0 (Text.lines (a ++ (blankBreak ++ b))) =
        g.scanFrom 0 (Text.lines a) ++ g.scanFrom m (Text.lines b) := by
  obtain ⟨gap, hgap, hlines⟩ := lines_blankBreak ha b
  refine ⟨(Text.lines a).length + 1 + gap.length, by omega, ?_⟩
  intro g
  rw [hlines, g.scanFrom_append_empty, Nat.zero_add]
  rcases hgap with rfl | rfl
  · rfl
  · have hempty := g.scanFrom_append_empty ((Text.lines a).length + 1) [] (Text.lines b)
    rw [List.singleton_append, ← List.nil_append ([] :: Text.lines b), hempty]
    simp [Grammar.scanFrom]

theorem matchGrammars_append_blank (grammars : List Grammar) {a : Text}
    (ha : a.getLast? ≠ some '\r') (b : Text) :
    matchGrammars grammars (a ++ (blankBreak ++ b)) =
      matchGrammars grammars a ++ matchGrammars grammars b := by
  obtain ⟨m, hm, hscan⟩ := scanFrom_blankBreak ha b
  have hbelow : mergedFrom grammars m (Text.lines b) =
      (mergedFrom grammars 0 (Text.lines b)).map (Candidate.mapSpan (Span.shift m)) := by
    refine mergedFrom_map (fun s => ⟨rfl, rfl⟩) fun g _ => ?_
    rw [← g.scanFrom_shift, Nat.zero_add]
  simp only [matchGrammars_eq_mergedFrom]
  rw [mergedFrom_append hm fun g _ => hscan g, List.map_append, hbelow, List.map_map]
  rfl

theorem matchGrammars_nil (grammars : List Grammar) : matchGrammars grammars [] = [] := by
  have hnone : candidatesFrom grammars 0 (Text.lines []) = [] := by
    simp [candidatesFrom, Text.lines, Grammar.scanFrom]
  rw [matchGrammars_eq_mergedFrom, mergedFrom, hnone, List.mergeSort_nil]
  rfl

/-- A text of any number of parts with empty lines between them. -/
theorem matchGrammars_join_blank (grammars : List Grammar) {parts : List Text}
    (hparts : ∀ part ∈ parts.dropLast, part.getLast? ≠ some '\r') :
    matchGrammars grammars (Text.join blankBreak parts) =
      parts.flatMap (matchGrammars grammars) := by
  induction parts with
  | nil => exact matchGrammars_nil grammars
  | cons first parts ih =>
      cases parts with
      | nil => simp [Text.join]
      | cons next more =>
          rw [List.dropLast_cons_cons, List.forall_mem_cons] at hparts
          rw [Text.join_cons_cons, matchGrammars_append_blank grammars hparts.1, ih hparts.2]
          rfl

/-- **An empty line is a barrier.**  What is found in two texts with an empty line between them is
what is found in the one and then what is found in the other.  So if parts of a text are separated
by empty lines, each adds what it has on its own, whatever the others are changed to. -/
theorem matchGrammars_blank_barrier (grammars : List Grammar) :
    (∀ a b : Text, a.getLast? ≠ some '\r' →
      matchGrammars grammars (a ++ "\n\n".toList ++ b) =
        matchGrammars grammars a ++ matchGrammars grammars b) ∧
    ∀ parts : List Text, (∀ part ∈ parts.dropLast, part.getLast? ≠ some '\r') →
      matchGrammars grammars (Text.join "\n\n".toList parts) =
        parts.flatMap (matchGrammars grammars) := by
  constructor
  · intro a b ha
    rw [List.append_assoc]
    exact matchGrammars_append_blank grammars ha b
  · intro parts hparts
    exact matchGrammars_join_blank grammars hparts

/-- An assumption that is cut in two by an empty line is none, and the ones behind it are found. -/
theorem matchGrammars_blank_barrier_cut :
    let grammars := BuiltinKind.assumption.kind.grammars
    let a := "# Assumption: cut\n# Q: good".toList
    let b := "# I: low\n# text\n# Assumption: whole\n# q: x\n# i: y\n# z\n".toList
    a.getLast? ≠ some '\r' ∧ b.getLast? ≠ some '\r' ∧
      (matchGrammars grammars (a ++ "\n\n".toList ++ b)).map Fields.title = ["whole".toList] ∧
      (matchGrammars grammars (Text.join "\n\n".toList [a, b, b])).map Fields.title =
        ["whole".toList, "whole".toList] := by
  intro grammars a b
  have ha : a.getLast? ≠ some '\r' := by decide
  have hb : b.getLast? ≠ some '\r' := by decide
  have hfree := apostropheFree_builtin .assumption
  have hcut : matchGrammars grammars a = [] := by
    rw [matchGrammars_eq_map_readOnce hfree]
    decide +kernel
  have hwhole : (matchGrammars grammars b).map Fields.title = ["whole".toList] := by
    rw [matchGrammars_eq_map_readOnce hfree]
    decide +kernel
  obtain ⟨htwo, hmany⟩ := matchGrammars_blank_barrier grammars
  refine ⟨ha, hb, ?_, ?_⟩
  · rw [htwo a b ha, hcut, List.nil_append, hwhole]
  · rw [hmany [a, b, b] (by simp [ha, hb])]
    simp [hcut, hwhole]

end AnnotationLog
