/-
Scanning with every grammar and merging is one pass over the lines.

Each grammar scans the text on its own and jumps over the blocks it takes; the
merge then drops whole blocks.  A dropped block might have hidden a later header
that its grammar jumped over, and a single pass that tries all grammars at every
line would have found it.  This file shows that it never happens, unless a
keyword begins with an apostrophe.

The reason is that blocks are nested or apart.  A block that opens inside another
has a lead that extends the other's lead, because its header line begins with
both and the marks are comparable; so the run of lines it takes ends no later.
The one exception would be a `#` header inside a `#'` block, whose label would
have to begin with the apostrophe.

Hence every grammar's own scan comes by every line at which the single pass
stops, and what it finds from there on is the scan of the rest alone.
-/
import AnnotationLog.Annotation.Merge
import AnnotationLog.Kind.Builtin
import AnnotationLog.Proofs.Annotation.Block
import AnnotationLog.Proofs.Annotation.Label
import Mathlib.Data.List.Sort

namespace AnnotationLog

/-- The block at the front of some lines for the first grammar in the list that has one. -/
def firstBlock? (grammars : List Grammar) (ls : List Text) : Option Block :=
  grammars.findSome? fun g => g.blockAt? ls

/-- One pass down the lines, of which the first has number `start`: where a block opens it is
taken and the pass goes on behind it, and otherwise at the next line. -/
def readOnce (grammars : List Grammar) (start : Nat) : List Text → List Span
  | [] => []
  | line :: below =>
    match firstBlock? grammars (line :: below) with
    | some b =>
      { start, stop := start + b.height, fields := b.fields } ::
        readOnce grammars (start + b.height) (below.drop (b.height - 1))
    | none => readOnce grammars (start + 1) below
termination_by ls => ls.length
decreasing_by all_goals grind

namespace Grammar

/-- The grammar was read from keywords of which none, once trimmed, begins with an apostrophe. -/
def ApostropheFree (g : Grammar) : Prop :=
  ∃ texts, ofTexts? g.dialect texts g.rated g.detailRequired = some g ∧
    ∀ t ∈ texts, (Text.trim t).head? ≠ some Text.apostrophe

theorem keywords_of_apostropheFree {g : Grammar} (hg : g.ApostropheFree) :
    ∀ k ∈ g.keywords, k.WellFormed ∧ k.first? ≠ some Text.apostrophe := by
  obtain ⟨texts, hread, hfree⟩ := hg
  have hkeys : g.keywords = readKeywords texts := by
    unfold ofTexts? at hread
    split at hread
    · simp at hread
    · simp only [Option.some.injEq] at hread
      rw [← hread]
  intro k hk
  rw [hkeys] at hk
  obtain ⟨t, ht, hkt⟩ := List.mem_filterMap.mp hk
  refine ⟨Keyword.wellFormed_of_ofText? hkt, ?_⟩
  rw [Keyword.first?_of_ofText? hkt]
  exact hfree t ht

/-! ### Blocks are nested or apart -/

/-- Of two marks at the front of one text the first is the shorter, unless the second is `#`
with an apostrophe behind it. -/
theorem mark_prefix_of_append_eq {d d' : Dialect} {rest rest' : Text}
    (h : d.mark ++ rest = d'.mark ++ rest') (hrest : rest'.head? ≠ some Text.apostrophe) :
    d.mark <+: d'.mark := by
  cases d <;> cases d' <;> simp only [Dialect.mark, List.cons_append, List.nil_append,
    List.cons.injEq] at h ⊢
  case hash.hash => exact List.prefix_rfl
  case hash.roxygen => exact ⟨[Text.apostrophe], rfl⟩
  case roxygen.hash =>
    rw [← h.2] at hrest
    exact absurd rfl hrest
  case roxygen.roxygen => exact List.prefix_rfl
  case doubleSlash.doubleSlash => exact List.prefix_rfl
  all_goals exact absurd h.1 (by decide)

/-- What stands behind the mark of a header does not begin with an apostrophe. -/
theorem label_head_ne {g : Grammar} (hg : g.ApostropheFree) {rest title : Text}
    (h : labelValue? g.keywords rest = some title) : rest.head? ≠ some Text.apostrophe := by
  intro hc
  obtain ⟨tail, rfl⟩ := List.head?_eq_some_iff.mp hc
  rw [labelValue?_eq_none (by decide) (by decide) (by decide)
    (keywords_of_apostropheFree hg)] at h
  simp at h

/-- A header on a line with a given lead has a lead that extends it. -/
theorem lead_prefix_of_header? {g : Grammar} (hg : g.ApostropheFree) {d : Dialect}
    {w line w' title : Text} (hw : ∀ c ∈ w, Text.isBlank c = true)
    (hlead : Text.startsWith (w ++ d.mark) line = true)
    (h : g.header? line = some (w', title)) : w ++ d.mark <+: w' ++ g.dialect.mark := by
  obtain ⟨rest, rfl⟩ := Text.startsWith_iff.mp hlead
  rw [List.append_assoc] at h
  obtain ⟨rfl, rest', hmarks, hvalue⟩ := header?_of_indent hw h
  exact (List.prefix_append_right_inj _).mpr
    (mark_prefix_of_append_eq hmarks (label_head_ne hg hvalue))

/-- A line that a run of lines with a lead reaches begins with the lead. -/
theorem startsWith_of_lt_run {lead line : Text} {ls below : List Text} {j : Nat}
    (hj : j < (ls.takeWhile (Text.startsWith lead)).length) (hdrop : ls.drop j = line :: below) :
    Text.startsWith lead line = true := by
  refine List.mem_takeWhile_imp (l := ls) (List.mem_iff_getElem.mpr ⟨j, hj, ?_⟩)
  have hline : ls[j]? = some line := by
    rw [← List.head?_drop, hdrop]
    rfl
  have hpre := List.takeWhile_prefix (p := Text.startsWith lead) (l := ls)
  rw [hpre.getElem hj]
  exact (List.getElem?_eq_some_iff.mp hline).2

/-- A run of lines with a longer lead, begun inside one with a shorter lead, ends inside it. -/
theorem run_drop_le {long short : Text} (hpre : short <+: long) {ls : List Text} {j : Nat}
    (hj : j ≤ (ls.takeWhile (Text.startsWith short)).length) :
    j + ((ls.drop j).takeWhile (Text.startsWith long)).length ≤
      (ls.takeWhile (Text.startsWith short)).length := by
  induction ls generalizing j with
  | nil =>
      simp only [List.drop_nil, List.takeWhile_nil, List.length_nil] at hj ⊢
      omega
  | cons line below ih =>
      cases j with
      | zero =>
          by_cases hlong : Text.startsWith long line = true
          · have hshort := Text.startsWith_of_prefix hpre hlong
            have := ih (Nat.zero_le _)
            simp only [List.drop_zero, hlong, hshort, List.takeWhile_cons_of_pos,
              List.length_cons] at this ⊢
            omega
          · simp [hlong]
      | succ j =>
          by_cases hshort : Text.startsWith short line = true
          · simp only [hshort, List.takeWhile_cons_of_pos, List.length_cons] at hj ⊢
            have := ih (by omega : j ≤ _)
            simp only [List.drop_succ_cons]
            omega
          · simp [hshort] at hj

/-- **Blocks are nested or apart.**  A block that opens inside another ends inside it. -/
theorem block_nested {g g' : Grammar} (hg' : g'.ApostropheFree) {ls : List Text} {b b' : Block}
    {j : Nat} (hb : g.blockAt? ls = some b) (hj : j < b.height)
    (hb' : g'.blockAt? (ls.drop j) = some b') : j + b'.height ≤ b.height := by
  have hblank : ∀ c ∈ b.fields.indent, Text.isBlank c = true := by
    cases ls with
    | nil => simp [blockAt?_nil] at hb
    | cons line below => exact (header?_eq_some_iff.mp (header?_of_blockAt? hb).2).1
  cases hdrop : ls.drop j with
  | nil =>
      rw [hdrop, blockAt?_nil] at hb'
      simp at hb'
  | cons line below =>
      rw [height_of_blockAt? hb] at hj
      have hlead := startsWith_of_lt_run hj hdrop
      rw [lead_of_blockAt? hb] at hlead
      have hheader := (header?_of_blockAt? (hdrop ▸ hb')).2
      have hpre := lead_prefix_of_header? hg' hblank hlead hheader
      rw [← lead_of_blockAt? hb, ← lead_of_blockAt? hb'] at hpre
      rw [height_of_blockAt? hb, height_of_blockAt? hb']
      exact run_drop_le hpre (Nat.le_of_lt hj)

/-! ### A scan that is entered at a later line

A scan stops at every line that no block of its own covers.  Entered there it finds
what the whole scan finds from that line on.
-/

variable {g : Grammar} {start : Nat} {ls : List Text}

theorem drop_height {line : Text} {below : List Text} {b : Block}
    (h : g.blockAt? (line :: below) = some b) :
    below.drop (b.height - 1) = (line :: below).drop b.height := by
  obtain ⟨n, hn⟩ := Nat.exists_eq_add_of_lt (height_pos_of_blockAt? h)
  rw [hn]
  simp

theorem scanFrom_of_some {line : Text} {below : List Text} {b : Block}
    (h : g.blockAt? (line :: below) = some b) :
    g.scanFrom start (line :: below) =
      { start, stop := start + b.height, fields := b.fields } ::
        g.scanFrom (start + b.height) ((line :: below).drop b.height) := by
  rw [scanFrom, h, ← drop_height h]

theorem scanFrom_of_none {line : Text} {below : List Text}
    (h : g.blockAt? (line :: below) = none) :
    g.scanFrom start (line :: below) = g.scanFrom (start + 1) below := by
  rw [scanFrom, h]

theorem start_le_of_mem_scanFrom {s : Span} (h : s ∈ g.scanFrom start ls) :
    start ≤ s.start ∧ s.start < s.stop := by
  fun_induction g.scanFrom start ls with
  | case1 => simp at h
  | case2 start line below b hb ih =>
      have hpos := height_pos_of_blockAt? hb
      rcases List.mem_cons.mp h with rfl | hrest
      · exact ⟨Nat.le_refl _, by simp only; omega⟩
      · have := ih hrest
        omega
  | case3 start line below hb ih =>
      have := ih h
      omega

/-- If no block reaches over line `k`, the scan from there is the rest of the whole scan. -/
theorem filter_scanFrom {k : Nat}
    (hclosed : ∀ j, j < k → ∀ b, g.blockAt? (ls.drop j) = some b → j + b.height ≤ k) :
    (g.scanFrom start ls).filter (fun s => start + k ≤ s.start) =
      g.scanFrom (start + k) (ls.drop k) := by
  have hall : ∀ (start : Nat) (ls : List Text),
      (g.scanFrom start ls).filter (fun s => start + 0 ≤ s.start) = g.scanFrom start ls := by
    intro start ls
    rw [List.filter_eq_self]
    intro s hs
    simpa using (start_le_of_mem_scanFrom hs).1
  fun_induction g.scanFrom start ls generalizing k with
  | case1 start => simp [scanFrom]
  | case2 start line below b hb ih =>
      rw [drop_height hb] at ih ⊢
      rcases Nat.eq_zero_or_pos k with hk | hk
      · subst hk
        rw [← scanFrom_of_some hb, hall]
        rfl
      · have hle : b.height ≤ k := by simpa using hclosed 0 hk b (by simpa using hb)
        have hstep := ih (k := k - b.height) (fun j hj b' hb' => by
          rw [List.drop_drop] at hb'
          have := hclosed (b.height + j) (by omega) b' hb'
          omega)
        rw [show start + b.height + (k - b.height) = start + k by omega, List.drop_drop,
          show b.height + (k - b.height) = k by omega] at hstep
        rw [List.filter_cons_of_neg (by simp only [decide_eq_true_eq]; omega), hstep]
  | case3 start line below hb ih =>
      cases k with
      | zero =>
          rw [← scanFrom_of_none hb, hall]
          rfl
      | succ k =>
          have hstep := ih (k := k) (fun j hj b' hb' => by
            have := hclosed (j + 1) (by omega) b' (by simpa using hb')
            omega)
          rw [show start + 1 + k = start + (k + 1) by omega] at hstep
          rw [hstep]
          rfl

end Grammar

/-! ### The candidates from a line on -/

/-- The annotations of all grammars in some lines of which the first has number `start`. -/
def candidatesFrom (grammars : List Grammar) (start : Nat) (ls : List Text) : List Candidate :=
  grammars.zipIdx.flatMap fun (g, rank) => (g.scanFrom start ls).map fun span => { rank, span }

variable {grammars : List Grammar} {start : Nat} {ls : List Text}

theorem mem_candidatesFrom {c : Candidate} :
    c ∈ candidatesFrom grammars start ls ↔
      ∃ g, grammars[c.rank]? = some g ∧ c.span ∈ g.scanFrom start ls := by
  unfold candidatesFrom
  rw [List.mem_flatMap]
  constructor
  · rintro ⟨⟨g, rank⟩, hg, hc⟩
    obtain ⟨span, hspan, rfl⟩ := List.mem_map.mp hc
    exact ⟨g, List.mem_zipIdx_iff_getElem?.mp hg, hspan⟩
  · rintro ⟨g, hg, hspan⟩
    exact ⟨(g, c.rank), List.mem_zipIdx_iff_getElem?.mpr hg, List.mem_map.mpr ⟨c.span, hspan, rfl⟩⟩

theorem start_le_of_mem_candidatesFrom {c : Candidate}
    (h : c ∈ candidatesFrom grammars start ls) :
    start ≤ c.span.start ∧ c.span.start < c.span.stop := by
  obtain ⟨g, -, hspan⟩ := mem_candidatesFrom.mp h
  exact Grammar.start_le_of_mem_scanFrom hspan

theorem candidatesFrom_congr {start' : Nat} {ls' : List Text}
    (h : ∀ g ∈ grammars, g.scanFrom start ls = g.scanFrom start' ls') :
    candidatesFrom grammars start ls = candidatesFrom grammars start' ls' := by
  unfold candidatesFrom
  refine List.flatMap_congr ?_
  rintro ⟨g, rank⟩ hg
  have hmem : g ∈ grammars := List.mem_of_getElem? (List.mem_zipIdx_iff_getElem?.mp hg)
  simp only [h g hmem]

theorem filter_candidatesFrom {k : Nat}
    (hclosed : ∀ g ∈ grammars, ∀ j, j < k → ∀ b, g.blockAt? (ls.drop j) = some b →
      j + b.height ≤ k) :
    (candidatesFrom grammars start ls).filter (fun c => start + k ≤ c.span.start) =
      candidatesFrom grammars (start + k) (ls.drop k) := by
  unfold candidatesFrom
  rw [List.filter_flatMap]
  refine List.flatMap_congr ?_
  rintro ⟨g, rank⟩ hg
  have hmem : g ∈ grammars := List.mem_of_getElem? (List.mem_zipIdx_iff_getElem?.mp hg)
  rw [List.filter_map]
  simp only [← Grammar.filter_scanFrom (hclosed g hmem)]
  rfl

/-! ### What the merge keeps -/

theorem keepDisjoint_of_le (free free' : Nat) {cs : List Candidate}
    (h : ∀ c ∈ cs, free ≤ c.span.start) (h' : ∀ c ∈ cs, free' ≤ c.span.start) :
    keepDisjoint free cs = keepDisjoint free' cs := by
  cases cs with
  | nil => rfl
  | cons c cs => simp [keepDisjoint, h c (by simp), h' c (by simp)]

/-- The merge never looks at an annotation that begins before the first free line. -/
theorem keepDisjoint_filter {least free : Nat} (hle : least ≤ free) {cs : List Candidate}
    (hspan : ∀ c ∈ cs, c.span.start < c.span.stop) :
    keepDisjoint free (cs.filter fun c => least ≤ c.span.start) = keepDisjoint free cs := by
  induction cs generalizing free with
  | nil => rfl
  | cons c cs ih =>
      have hspan' : ∀ d ∈ cs, d.span.start < d.span.stop := fun d hd => hspan d (by simp [hd])
      have hc := hspan c (by simp)
      by_cases hleast : least ≤ c.span.start
      · rw [List.filter_cons_of_pos (by simpa using hleast)]
        by_cases hfree : free ≤ c.span.start
        · simp only [keepDisjoint, if_pos hfree]
          rw [ih (by omega) hspan']
        · simp only [keepDisjoint, if_neg hfree]
          exact ih hle hspan'
      · rw [List.filter_cons_of_neg (by simpa using hleast), ih hle hspan', keepDisjoint,
          if_neg (by omega)]

theorem Candidate.le_iff {a b : Candidate} :
    a.le b = true ↔ a.span.start < b.span.start ∨
      a.span.start = b.span.start ∧ a.rank ≤ b.rank := by
  simp [Candidate.le]

/-- The candidates in the order of reading. -/
theorem sorted_mergeSort_candidates (cs : List Candidate) :
    (cs.mergeSort Candidate.le).Pairwise fun a b => a.le b = true := by
  refine List.pairwise_mergeSort ?_ ?_ cs
  · intro a b c hab hbc
    rw [Candidate.le_iff] at hab hbc ⊢
    omega
  · intro a b
    rw [Bool.or_eq_true, Candidate.le_iff, Candidate.le_iff]
    omega

/-! ### The single pass -/

theorem readOnce_of_some {b : Block} (h : firstBlock? grammars ls = some b) :
    readOnce grammars start ls =
      { start, stop := start + b.height, fields := b.fields } ::
        readOnce grammars (start + b.height) (ls.drop b.height) := by
  obtain ⟨g, -, hb⟩ := List.exists_of_findSome?_eq_some h
  cases ls with
  | nil => simp [Grammar.blockAt?_nil] at hb
  | cons line below => rw [readOnce, h, ← Grammar.drop_height hb]

theorem readOnce_of_none {line : Text} {below : List Text}
    (h : firstBlock? grammars (line :: below) = none) :
    readOnce grammars start (line :: below) = readOnce grammars (start + 1) below := by
  rw [readOnce, h]

/-- A candidate at the first line comes from a block there. -/
theorem block_of_candidate {line : Text} {below : List Text} {c : Candidate}
    (hc : c ∈ candidatesFrom grammars start (line :: below)) (hstart : c.span.start = start) :
    ∃ g b, grammars[c.rank]? = some g ∧ g.blockAt? (line :: below) = some b ∧
      c.span = { start, stop := start + b.height, fields := b.fields } := by
  obtain ⟨g, hg, hspan⟩ := mem_candidatesFrom.mp hc
  cases hb : g.blockAt? (line :: below) with
  | none =>
      rw [Grammar.scanFrom_of_none hb] at hspan
      have := (Grammar.start_le_of_mem_scanFrom hspan).1
      omega
  | some b =>
      refine ⟨g, b, hg, hb, ?_⟩
      rw [Grammar.scanFrom_of_some hb] at hspan
      rcases List.mem_cons.mp hspan with hfirst | hrest
      · exact hfirst
      · have hpos := Grammar.height_pos_of_blockAt? hb
        have := (Grammar.start_le_of_mem_scanFrom hrest).1
        omega

/-- In reading order the block of the first grammar that has one at the first line comes first. -/
theorem sorted_candidates_first {line : Text} {below : List Text} {b : Block}
    {cs : List Candidate} (hfirst : firstBlock? grammars (line :: below) = some b)
    (hperm : cs.Perm (candidatesFrom grammars start (line :: below)))
    (hsorted : cs.Pairwise fun a b => a.le b = true) :
    ∃ rank rest, cs = { rank, span := { start, stop := start + b.height, fields := b.fields } } ::
      rest := by
  obtain ⟨before, g, after, hgrammars, hb, hnone⟩ := List.findSome?_eq_some_iff.mp hfirst
  -- The candidate that has to come first.
  let top : Candidate :=
    { rank := before.length, span := { start, stop := start + b.height, fields := b.fields } }
  have hget : grammars[before.length]? = some g := by simp [hgrammars]
  have htop : top ∈ cs := by
    refine hperm.mem_iff.mpr (mem_candidatesFrom.mpr ⟨g, hget, ?_⟩)
    rw [Grammar.scanFrom_of_some hb]
    exact List.mem_cons_self
  cases cs with
  | nil => simp at htop
  | cons c rest =>
      have hc := hperm.mem_iff.mp (List.mem_cons_self (a := c))
      have hle : c.le top = true := by
        rcases List.mem_cons.mp htop with heq | hrest
        · rw [heq, Candidate.le_iff]
          exact Or.inr ⟨rfl, Nat.le_refl _⟩
        · exact (List.pairwise_cons.mp hsorted).1 top hrest
      have hge := (start_le_of_mem_candidatesFrom hc).1
      have hat : c.span.start = start ∧ c.rank ≤ before.length := by
        rcases Candidate.le_iff.mp hle with hlt | ⟨heq, hrank⟩
        · exact absurd hlt (by simp only [top]; omega)
        · exact ⟨heq, hrank⟩
      obtain ⟨g', b', hget', hb', hspan⟩ := block_of_candidate hc hat.1
      have hrank : c.rank = before.length := by
        refine Nat.le_antisymm hat.2 (Nat.le_of_not_lt fun hlt => ?_)
        rw [hgrammars, List.getElem?_append_left hlt] at hget'
        rw [hnone g' (List.mem_of_getElem? hget')] at hb'
        simp at hb'
      rw [hrank, hget, Option.some.injEq] at hget'
      subst hget'
      rw [hb, Option.some.injEq] at hb'
      subst hb'
      exact ⟨c.rank, rest, by rw [← hspan]⟩

/-- **The merge of the scans of some lines is one pass over them.**  The induction is on the
pass; what carries it is that every grammar's candidates behind the block just taken are the
candidates of the lines behind it. -/
theorem keepDisjoint_candidatesFrom (hfree : ∀ g ∈ grammars, g.ApostropheFree)
    {cs : List Candidate} (hperm : cs.Perm (candidatesFrom grammars start ls))
    (hsorted : cs.Pairwise fun a b => a.le b = true) :
    (keepDisjoint start cs).map Candidate.span = readOnce grammars start ls := by
  fun_induction readOnce grammars start ls generalizing cs with
  | case1 start =>
      have hnil : candidatesFrom grammars start [] = [] := by
        simp [candidatesFrom, Grammar.scanFrom]
      rw [hnil, List.perm_nil] at hperm
      subst hperm
      rfl
  | case2 start line below b hfirst ih =>
      obtain ⟨rank, rest, rfl⟩ := sorted_candidates_first hfirst hperm hsorted
      obtain ⟨g, hg, hb⟩ := List.exists_of_findSome?_eq_some hfirst
      have hpos := Grammar.height_pos_of_blockAt? hb
      have hspan : ∀ c ∈ rest, c.span.start < c.span.stop := fun c hc =>
        (start_le_of_mem_candidatesFrom (hperm.mem_iff.mp (List.mem_cons_of_mem _ hc))).2
      -- Behind the block all grammars find what they find in the lines behind it.
      have hrest : (rest.filter fun c => start + b.height ≤ c.span.start).Perm
          (candidatesFrom grammars (start + b.height) ((line :: below).drop b.height)) := by
        rw [← filter_candidatesFrom fun g' hg' j hj b' hb' =>
          Grammar.block_nested (hfree g' hg') hb hj hb']
        have := hperm.filter fun c => start + b.height ≤ c.span.start
        rwa [List.filter_cons_of_neg (by simp only [decide_eq_true_eq]; omega)] at this
      rw [Grammar.drop_height hb] at ih ⊢
      have hstep := ih hrest ((List.pairwise_cons.mp hsorted).2.filter _)
      rw [keepDisjoint_filter (Nat.le_refl _) hspan] at hstep
      rw [keepDisjoint, if_pos (Nat.le_refl _), List.map_cons, hstep]
  | case3 start line below hfirst ih =>
      have hnone : ∀ g ∈ grammars, g.blockAt? (line :: below) = none :=
        List.findSome?_eq_none_iff.mp hfirst
      rw [candidatesFrom_congr fun g hg => Grammar.scanFrom_of_none (hnone g hg)] at hperm
      have hge : ∀ c ∈ cs, start + 1 ≤ c.span.start := fun c hc =>
        (start_le_of_mem_candidatesFrom (hperm.mem_iff.mp hc)).1
      rw [keepDisjoint_of_le start (start + 1) (fun c hc => Nat.le_of_succ_le (hge c hc)) hge]
      exact ih hperm hsorted

/-- The pass comes by every block or takes one that reaches over its first line. -/
theorem covered_of_block {g : Grammar} (hg : g ∈ grammars) {i : Nat}
    (hblock : (g.blockAt? (ls.drop i)).isSome = true) :
    ∃ s ∈ readOnce grammars start ls, s.start ≤ start + i ∧ start + i < s.stop := by
  fun_induction readOnce grammars start ls generalizing i with
  | case1 start => simp [Grammar.blockAt?_nil] at hblock
  | case2 start line below b hfirst ih =>
      obtain ⟨g', -, hb⟩ := List.exists_of_findSome?_eq_some hfirst
      rw [Grammar.drop_height hb] at ih ⊢
      rcases Nat.lt_or_ge i b.height with hlt | hge
      · exact ⟨_, List.mem_cons_self, by simp only; omega⟩
      · obtain ⟨s, hs, hle, hlt⟩ := ih (i := i - b.height) (by
          rw [List.drop_drop, Nat.add_sub_cancel' hge]
          exact hblock)
        exact ⟨s, List.mem_cons_of_mem _ hs, by omega, by omega⟩
  | case3 start line below hfirst ih =>
      cases i with
      | zero =>
          rw [List.drop_zero, List.findSome?_eq_none_iff.mp hfirst g hg] at hblock
          simp at hblock
      | succ i =>
          obtain ⟨s, hs, hle, hlt⟩ := ih hblock
          exact ⟨s, hs, by omega, by omega⟩

theorem spans_mergedCandidates (hfree : ∀ g ∈ grammars, g.ApostropheFree) (text : Text) :
    (mergedCandidates grammars text).map Candidate.span =
      readOnce grammars 0 (Text.lines text) :=
  keepDisjoint_candidatesFrom hfree (List.mergeSort_perm _ _) (sorted_mergeSort_candidates _)

theorem matchGrammars_eq_map_readOnce (hfree : ∀ g ∈ grammars, g.ApostropheFree) (text : Text) :
    matchGrammars grammars text = (readOnce grammars 0 (Text.lines text)).map Span.fields := by
  rw [← spans_mergedCandidates hfree, List.map_map]
  rfl

/-- No keyword of a built-in kind begins with an apostrophe. -/
theorem apostropheFree_builtin (b : BuiltinKind) : ∀ g ∈ b.kind.grammars, g.ApostropheFree := by
  intro g hg
  obtain ⟨d, -, rfl⟩ := List.mem_map.mp hg
  refine ⟨b.keywords, ?_, ?_⟩
  · cases b <;> rfl
  · cases b <;> decide

/-- **Scanning and merging is one pass.**  What the merge of all scans captures is what a single
pass captures that takes, at every line it comes by, the first grammar with a complete block
there; so a block outside every reported span is never lost.  The built-in kinds are among the
grammars this holds for. -/
theorem matchGrammars_one_pass (grammars : List Grammar)
    (hfree : ∀ g ∈ grammars, g.ApostropheFree) (text : Text) :
    matchGrammars grammars text = (readOnce grammars 0 (Text.lines text)).map Span.fields ∧
    (mergedCandidates grammars text).map Candidate.span =
      readOnce grammars 0 (Text.lines text) ∧
    (∀ g ∈ grammars, ∀ i, (g.blockAt? ((Text.lines text).drop i)).isSome = true →
      ∃ c ∈ mergedCandidates grammars text, c.span.start ≤ i ∧ i < c.span.stop) ∧
    ∀ b : BuiltinKind, ∀ g ∈ b.kind.grammars, g.ApostropheFree := by
  have hspans := spans_mergedCandidates hfree text
  refine ⟨matchGrammars_eq_map_readOnce hfree text, hspans, ?_, apostropheFree_builtin⟩
  intro g hg i hblock
  obtain ⟨s, hs, hle, hlt⟩ : ∃ s ∈ readOnce grammars 0 (Text.lines text),
      s.start ≤ 0 + i ∧ 0 + i < s.stop := covered_of_block hg hblock
  rw [← hspans] at hs
  obtain ⟨c, hc, rfl⟩ := List.mem_map.mp hs
  exact ⟨c, hc, by omega, by omega⟩

/-- A `#'` header among the detail lines of a `#` block, and a block behind it. -/
theorem matchGrammars_one_pass_nested :
    (∀ g ∈ BuiltinKind.caveat.kind.grammars, g.ApostropheFree) ∧
    (matchGrammars BuiltinKind.caveat.kind.grammars
      "# Caveat: outer\n#' Caveat: inner\n#' text\n// Caveat: last\n".toList).map Fields.title =
        ["outer".toList, "last".toList] := by
  refine ⟨apostropheFree_builtin .caveat, ?_⟩
  rw [(matchGrammars_one_pass _ (apostropheFree_builtin .caveat) _).1]
  decide +kernel

end AnnotationLog
