/-
What the merge keeps.

Each grammar scans the text on its own, so the annotations that come to the merge
may overlap in any way, and several may open at one line.  The merge reads them in
the order of their first lines, at one line in the order of the grammars, and
remembers nothing but the line behind the last one it kept.

What it keeps can be said without the order of its work.  A choice among the
annotations is settled if the chosen ones overlap nowhere and one is left out only
for a chosen one that comes before it and holds its first line.  There is exactly
one settled choice: whether an annotation belongs to it depends on what comes before
alone, so two of them agree by induction along the order of reading.

The merge does not look at what was captured, and line numbers are only compared.
So it goes along with every change that moves all annotations by the same number of
lines.
-/
import AnnotationLog.Proofs.Annotation.Scan
import AnnotationLog.Proofs.Annotation.Source
import Mathlib.Data.List.Pairwise
import Mathlib.Data.Prod.Lex
import Mathlib.Order.Interval.Set.Basic

namespace AnnotationLog

/-- The lines that an annotation takes. -/
def Span.taken (s : Span) : Set Nat :=
  Set.Ico s.start s.stop

theorem Span.start_mem_taken {s : Span} (h : s.start < s.stop) : s.start ∈ s.taken :=
  ⟨Nat.le_refl _, h⟩

/-! ### The order of reading -/

/-- The place in the order of reading: the first line, then the grammar. -/
def Candidate.place (c : Candidate) : Lex (Nat × Nat) :=
  toLex (c.span.start, c.rank)

theorem Candidate.le_iff_place {a b : Candidate} : a.le b = true ↔ a.place ≤ b.place := by
  rw [le_iff, place, place, Prod.Lex.toLex_le_toLex]

variable {grammars : List Grammar} {start : Nat} {ls : List Text}

/-- A grammar finds at most one annotation that opens at a line. -/
theorem Grammar.span_unique {g : Grammar} {s t : Span} (hs : s ∈ g.scanFrom start ls)
    (ht : t ∈ g.scanFrom start ls) (h : s.start = t.start) : s = t := by
  have hnodup : ((g.scanFrom start ls).map Span.start).Nodup := by
    rw [List.Nodup, List.pairwise_map]
    refine (g.pairwise_scanFrom start ls).imp_of_mem ?_
    intro a b ha _ hab
    have := (start_le_of_mem_scanFrom ha).2
    omega
  exact List.inj_on_of_nodup_map hnodup hs ht h

/-- No two annotations have the same place. -/
theorem place_injective {c d : Candidate} (hc : c ∈ candidatesFrom grammars start ls)
    (hd : d ∈ candidatesFrom grammars start ls) (h : c.place = d.place) : c = d := by
  obtain ⟨hstart, hrank⟩ := Prod.mk.inj (toLex_inj.mp h)
  obtain ⟨g, hg, hspan⟩ := mem_candidatesFrom.mp hc
  obtain ⟨g', hg', hspan'⟩ := mem_candidatesFrom.mp hd
  rw [hrank, hg', Option.some.injEq] at hg
  subst hg
  obtain ⟨rank, span⟩ := c
  obtain ⟨rank', span'⟩ := d
  exact congrArg₂ Candidate.mk hrank (Grammar.span_unique hspan hspan' hstart)

/-- There is one way to put the annotations into the order of reading. -/
theorem mergeSort_candidatesFrom {cs : List Candidate}
    (hperm : cs.Perm (candidatesFrom grammars start ls))
    (hsorted : cs.Pairwise fun a b => a.le b = true) :
    (candidatesFrom grammars start ls).mergeSort Candidate.le = cs := by
  have hsame := (List.mergeSort_perm (candidatesFrom grammars start ls) Candidate.le).trans
    hperm.symm
  refine List.Perm.eq_of_pairwise ?_ (sorted_mergeSort_candidates _) hsorted hsame
  intro a b ha hb hab hba
  rw [Candidate.le_iff_place] at hab hba
  exact place_injective (List.mem_mergeSort.mp ha) (hperm.mem_iff.mp hb)
    (le_antisymm hab hba)

/-! ### The merge goes along with changes -/

/-- The annotations kept of those in some lines of which the first has number `start`. -/
def mergedFrom (grammars : List Grammar) (start : Nat) (ls : List Text) : List Candidate :=
  keepDisjoint 0 ((candidatesFrom grammars start ls).mergeSort Candidate.le)

theorem matchGrammars_eq_mergedFrom (grammars : List Grammar) (text : Text) :
    matchGrammars grammars text =
      (mergedFrom grammars 0 (Text.lines text)).map fun c => c.span.fields :=
  rfl

/-- An annotation of the same grammar with another span. -/
def Candidate.mapSpan (change : Span → Span) (c : Candidate) : Candidate :=
  { c with span := change c.span }

section

variable {change : Span → Span} {k : Nat}
  (hmove : ∀ s, (change s).start = s.start + k ∧ (change s).stop = s.stop + k)

include hmove

theorem keepDisjoint_map (free : Nat) (cs : List Candidate) :
    keepDisjoint (free + k) (cs.map (Candidate.mapSpan change)) =
      (keepDisjoint free cs).map (Candidate.mapSpan change) := by
  induction cs generalizing free with
  | nil => rfl
  | cons c cs ih =>
      obtain ⟨hstart, hstop⟩ := hmove c.span
      simp only [List.map_cons, keepDisjoint, Candidate.mapSpan, hstart, hstop,
        Nat.add_le_add_iff_right]
      split
      · rw [List.map_cons]
        exact congrArg _ (ih c.span.stop)
      · exact ih free

/-- **A change of all scans is a change of the merge**, if it moves all annotations by the same
number of lines. -/
theorem mergedFrom_map {start' : Nat} {ls' : List Text}
    (hscan : ∀ g ∈ grammars, g.scanFrom start' ls' = (g.scanFrom start ls).map change) :
    mergedFrom grammars start' ls' =
      (mergedFrom grammars start ls).map (Candidate.mapSpan change) := by
  have hcandidates : candidatesFrom grammars start' ls' =
      (candidatesFrom grammars start ls).map (Candidate.mapSpan change) := by
    unfold candidatesFrom
    rw [List.map_flatMap]
    refine List.flatMap_congr ?_
    rintro ⟨g, rank⟩ hg
    have hmem : g ∈ grammars := List.mem_of_getElem? (List.mem_zipIdx_iff_getElem?.mp hg)
    simp only [hscan g hmem, List.map_map]
    rfl
  have hle : ∀ a b : Candidate, a.le b = (a.mapSpan change).le (b.mapSpan change) := by
    intro a b
    rw [Bool.eq_iff_iff, Candidate.le_iff, Candidate.le_iff]
    simp only [Candidate.mapSpan, (hmove _).1, Nat.add_lt_add_iff_right, Nat.add_right_cancel_iff]
  rw [mergedFrom, hcandidates, ← List.map_mergeSort fun a _ b _ => hle a b, mergedFrom,
    ← keepDisjoint_map hmove]
  -- Nothing begins before line `k` once everything has moved.
  refine keepDisjoint_of_le _ _ (fun _ _ => Nat.zero_le _) ?_
  intro c hc
  obtain ⟨d, -, rfl⟩ := List.mem_map.mp hc
  have := (hmove d.span).1
  simp only [Candidate.mapSpan]
  omega

end

/-! ### What is kept and what is left out -/

theorem free_le_of_mem_keepDisjoint {free : Nat} {cs : List Candidate}
    (hspan : ∀ c ∈ cs, c.span.start < c.span.stop) {c : Candidate}
    (h : c ∈ keepDisjoint free cs) : free ≤ c.span.start := by
  induction cs generalizing free with
  | nil => simp [keepDisjoint] at h
  | cons d cs ih =>
      have hd := hspan d (by simp)
      have hrest : ∀ c ∈ cs, c.span.start < c.span.stop := fun c hc => hspan c (by simp [hc])
      rw [keepDisjoint] at h
      split at h
      · rename_i hfree
        rcases List.mem_cons.mp h with rfl | h
        · exact hfree
        · have := ih hrest h
          omega
      · exact ih hrest h

/-- Whatever is kept begins behind all that was kept before it. -/
theorem pairwise_keepDisjoint {free : Nat} {cs : List Candidate}
    (hspan : ∀ c ∈ cs, c.span.start < c.span.stop) :
    (keepDisjoint free cs).Pairwise fun a b => a.span.stop ≤ b.span.start := by
  induction cs generalizing free with
  | nil => exact List.Pairwise.nil
  | cons d cs ih =>
      have hrest : ∀ c ∈ cs, c.span.start < c.span.stop := fun c hc => hspan c (by simp [hc])
      rw [keepDisjoint]
      split
      · exact List.Pairwise.cons (fun c hc => free_le_of_mem_keepDisjoint hrest hc) (ih hrest)
      · exact ih hrest

/-- Whatever is left out begins before the first free line or inside something that was kept and
comes before it.  The induction is on the annotations that are still to be read, and the free line
stands for all that was read before. -/
theorem covered_of_notMem_keepDisjoint {free : Nat} {cs : List Candidate}
    (hsorted : cs.Pairwise fun a b => a.le b = true) {c : Candidate} (hc : c ∈ cs)
    (hout : c ∉ keepDisjoint free cs) :
    c.span.start < free ∨
      ∃ d ∈ keepDisjoint free cs, d.le c = true ∧ c.span.start ∈ d.span.taken := by
  induction cs generalizing free with
  | nil => simp at hc
  | cons d cs ih =>
      obtain ⟨hfirst, hrest⟩ := List.pairwise_cons.mp hsorted
      rw [keepDisjoint] at hout ⊢
      split at hout
      · rename_i hfree
        rw [if_pos hfree]
        have hmem : c ∈ cs := by
          rcases List.mem_cons.mp hc with rfl | hmem
          · exact absurd List.mem_cons_self hout
          · exact hmem
        have hle := hfirst c hmem
        refine Or.inr ?_
        rcases ih hrest hmem fun h => hout (List.mem_cons_of_mem _ h) with hinside | ⟨e, he, hcover⟩
        · refine ⟨d, List.mem_cons_self, hle, ?_, hinside⟩
          rcases Candidate.le_iff.mp hle with hlt | ⟨heq, -⟩
          · exact Nat.le_of_lt hlt
          · exact Nat.le_of_eq heq
        · exact ⟨e, List.mem_cons_of_mem _ he, hcover⟩
      · rename_i hfree
        rw [if_neg hfree]
        rcases List.mem_cons.mp hc with rfl | hmem
        · exact Or.inl (Nat.lt_of_not_le hfree)
        · exact ih hrest hmem hout

/-! ### The settled choice -/

/-- A choice among the annotations found that overlaps nowhere and leaves one out only if its first
line lies in a chosen one that comes before it. -/
structure IsSettled (found chosen : Set Candidate) : Prop where
  subset : chosen ⊆ found
  disjoint : ∀ c ∈ chosen, ∀ d ∈ chosen, ∀ line ∈ c.span.taken, line ∈ d.span.taken → c = d
  covers : ∀ c ∈ found, c ∉ chosen →
    ∃ d ∈ chosen, d.place < c.place ∧ c.span.start ∈ d.span.taken

namespace IsSettled

variable {found chosen chosen' : Set Candidate}

/-- An annotation whose first line lies in another one that is chosen is not chosen. -/
theorem notMem_of_covered (h : IsSettled found chosen) {c d : Candidate}
    (hspan : c.span.start < c.span.stop) (hd : d ∈ chosen) (hne : d ≠ c)
    (hcover : c.span.start ∈ d.span.taken) : c ∉ chosen := by
  intro hc
  exact hne (h.disjoint d hd c hc _ hcover (Span.start_mem_taken hspan))

/-- What belongs to one settled choice belongs to every other, if they agree on all that comes
before. -/
theorem mem_of_mem (h : IsSettled found chosen) (h' : IsSettled found chosen') {c : Candidate}
    (hspan : c.span.start < c.span.stop)
    (hbefore : ∀ d ∈ found, d.place < c.place → d ∈ chosen' → d ∈ chosen) (hc : c ∈ chosen) :
    c ∈ chosen' := by
  by_contra hout
  obtain ⟨d, hd, hplace, hcover⟩ := h'.covers c (h.subset hc) hout
  have hne : d ≠ c := by
    rintro rfl
    exact hout hd
  exact h.notMem_of_covered hspan (hbefore d (h'.subset hd) hplace hd) hne hcover hc

/-- **There is at most one settled choice.** -/
theorem unique (hspan : ∀ c ∈ found, c.span.start < c.span.stop) (h : IsSettled found chosen)
    (h' : IsSettled found chosen') : chosen = chosen' := by
  have hagree : ∀ place : Lex (Nat × Nat), ∀ c ∈ found, c.place = place →
      (c ∈ chosen ↔ c ∈ chosen') := by
    intro place
    induction place using WellFoundedLT.induction with
    | ind place ih =>
        rintro c hc rfl
        constructor
        · exact h.mem_of_mem h' (hspan c hc) fun d hd hlt => (ih d.place hlt d hd rfl).mpr
        · exact h'.mem_of_mem h (hspan c hc) fun d hd hlt => (ih d.place hlt d hd rfl).mp
  ext c
  constructor
  · exact fun hc => (hagree _ c (h.subset hc) rfl).mp hc
  · exact fun hc => (hagree _ c (h'.subset hc) rfl).mpr hc

end IsSettled

/-- All annotations that grammars find in a text, each with the position of its grammar. -/
def foundBy (grammars : List Grammar) (text : Text) : Set Candidate :=
  {c | ∃ g, grammars[c.rank]? = some g ∧ c.span ∈ g.scan text}

theorem mem_foundBy {text : Text} {c : Candidate} :
    c ∈ foundBy grammars text ↔ c ∈ candidates grammars text :=
  mem_candidatesFrom.symm

theorem start_lt_stop_of_mem_foundBy {text : Text} {c : Candidate}
    (h : c ∈ foundBy grammars text) : c.span.start < c.span.stop :=
  (start_le_of_mem_candidatesFrom (mem_foundBy.mp h)).2

theorem mem_candidates_of_mem_merged {text : Text} {c : Candidate}
    (h : c ∈ mergedCandidates grammars text) : c ∈ candidates grammars text :=
  List.mem_mergeSort.mp (mem_of_mem_keepDisjoint h)

theorem pairwise_mergedCandidates (grammars : List Grammar) (text : Text) :
    (mergedCandidates grammars text).Pairwise fun a b => a.span.stop ≤ b.span.start :=
  pairwise_keepDisjoint fun _ hc =>
    start_lt_stop_of_mem_foundBy (mem_foundBy.mpr (List.mem_mergeSort.mp hc))

/-- **What the merge keeps is a settled choice.** -/
theorem isSettled_mergedCandidates (grammars : List Grammar) (text : Text) :
    IsSettled (foundBy grammars text) {c | c ∈ mergedCandidates grammars text} := by
  constructor
  case subset => exact fun c hc => mem_foundBy.mpr (mem_candidates_of_mem_merged hc)
  case disjoint =>
    have hapart : (mergedCandidates grammars text).Pairwise fun a b =>
        ∀ line, ¬ (line ∈ a.span.taken ∧ line ∈ b.span.taken) := by
      refine (pairwise_mergedCandidates grammars text).imp ?_
      rintro a b hab line ⟨ha, hb⟩
      exact absurd (Nat.le_trans hab hb.1) (Nat.not_le.mpr ha.2)
    have hsymm : Std.Symm fun a b : Candidate =>
        ∀ line, ¬ (line ∈ a.span.taken ∧ line ∈ b.span.taken) :=
      ⟨fun _ _ h line hline => h line hline.symm⟩
    intro c hc d hd line hline hline'
    by_contra hne
    exact hapart.set_pairwise hc hd hne line ⟨hline, hline'⟩
  case covers =>
    intro c hc hout
    have hmem := mem_foundBy.mp hc
    rcases covered_of_notMem_keepDisjoint (sorted_mergeSort_candidates _)
      (List.mem_mergeSort.mpr hmem) hout with hbefore | ⟨d, hd, hle, hcover⟩
    · exact absurd hbefore (Nat.not_lt_zero _)
    · refine ⟨d, hd, lt_of_le_of_ne (Candidate.le_iff_place.mp hle) ?_, hcover⟩
      intro hplace
      exact hout (place_injective (mem_candidates_of_mem_merged hd) hmem hplace ▸ hd)

/-- **The merge keeps the one settled choice, in the order of first lines.**  This holds for every
list of grammars, also where the annotations they find cross one another. -/
theorem matchGrammars_settled (grammars : List Grammar) (text : Text) :
    ∃ kept : List Candidate,
      matchGrammars grammars text = kept.map (fun c => c.span.fields) ∧
      kept.Pairwise (fun a b => a.span.start < b.span.start) ∧
      ∀ chosen, IsSettled (foundBy grammars text) chosen ↔ chosen = {c | c ∈ kept} := by
  have hsettled := isSettled_mergedCandidates grammars text
  refine ⟨mergedCandidates grammars text, rfl, ?_, ?_⟩
  · refine (pairwise_mergedCandidates grammars text).imp_of_mem ?_
    intro a b ha _ hab
    exact Nat.lt_of_lt_of_le (start_lt_stop_of_mem_foundBy (hsettled.subset ha)) hab
  · intro chosen
    constructor
    · exact fun h => h.unique (fun _ => start_lt_stop_of_mem_foundBy) hsettled
    · rintro rfl
      exact hsettled

/-- A `#` annotation that opens inside a `#'` annotation and ends behind it is left out.  Its
keyword begins with an apostrophe. -/
theorem matchGrammars_settled_crossing :
    let grammars : List Grammar :=
      [{ dialect := .hash, keywords := [⟨["'note".toList]⟩], rated := false
         detailRequired := false },
       { dialect := .roxygen, keywords := [⟨["risk".toList]⟩], rated := false
         detailRequired := false }]
    let text := "#' Risk: a\n#'Note: b\n# more\n".toList
    let crossing : Candidate :=
      { rank := 0
        span := { start := 1, stop := 3
                  fields := { indent := [], dialect := .hash, title := ['b'], quality := none
                              impact := none, detail := "# more\n".toList } } }
    let outer : Candidate :=
      { rank := 1
        span := { start := 0, stop := 2
                  fields := { indent := [], dialect := .roxygen, title := ['a'], quality := none
                              impact := none, detail := "#'Note: b\n".toList } } }
    foundBy grammars text = {crossing, outer} ∧
      matchGrammars grammars text = [outer.span.fields] := by
  intro grammars text crossing outer
  have hcandidates : candidates grammars text = [crossing, outer] := by
    decide +kernel
  have hfound : foundBy grammars text = {crossing, outer} := by
    ext c
    rw [mem_foundBy, hcandidates]
    simp
  obtain ⟨kept, hkept, hsorted, hchosen⟩ := matchGrammars_settled grammars text
  have hsettled := (hchosen {c | c ∈ kept}).mpr rfl
  rw [hfound] at hsettled
  have houter : outer ∈ kept := by
    by_contra hout
    obtain ⟨d, hd, hplace, hcover⟩ := hsettled.covers outer (by simp) hout
    rcases hsettled.subset hd with rfl | rfl
    · exact absurd hcover.1 (by decide)
    · exact absurd hplace (lt_irrefl _)
  have hcrossing : crossing ∉ kept :=
    hsettled.notMem_of_covered (by decide) houter (by decide) ⟨by decide, by decide⟩
  have honly : ∀ c ∈ kept, c = outer := by
    intro c hc
    rcases hsettled.subset hc with rfl | rfl
    · exact absurd hc hcrossing
    · rfl
  refine ⟨hfound, ?_⟩
  obtain ⟨first, rest, rfl⟩ := List.exists_cons_of_ne_nil (List.ne_nil_of_mem houter)
  have hrest : rest = [] := by
    refine List.eq_nil_iff_forall_not_mem.mpr fun c hc => ?_
    have hlt := (List.pairwise_cons.mp hsorted).1 c hc
    rw [honly first (by simp), honly c (by simp [hc])] at hlt
    exact absurd hlt (Nat.lt_irrefl _)
  rw [hkept, hrest, honly first (by simp)]
  rfl

end AnnotationLog
