/-
Text that is set further in.

The indent of a header is part of the lead of its block, and every line under the
header is compared with the lead from its first character on.  So blanks in front of
all lines lengthen every indent and every lead by the same blanks, and no comparison
comes out in another way: the same annotations are found at the same lines.

An entry does not show the difference.  Of a line of the detail it takes away the
lead, blanks included, and where a line does not begin with the lead it takes away
the blanks when it trims the line.
-/
import AnnotationLog.Proofs.Annotation.Merge
import AnnotationLog.Proofs.Kind.Entry

namespace AnnotationLog

/-! ### Lines set further in -/

namespace Text

/-- A text with `w` in front of every line that begins in it; the first line does if `fresh`. -/
def indentFrom (w : Text) (fresh : Bool) : Text → Text
  | [] => []
  | c :: cs => (if fresh then w else []) ++ c :: indentFrom w (c == '\n') cs

/-- A text with `w` in front of every line. -/
def indentLines (w t : Text) : Text :=
  indentFrom w true t

variable {w : Text}

theorem indentLines_of_ne_nil {t : Text} (ht : t ≠ []) :
    indentLines w t = w ++ indentFrom w false t := by
  cases t with
  | nil => exact absurd rfl ht
  | cons c cs => rfl

theorem indentFrom_append_newline {line : Text} (hline : '\n' ∉ line) (rest : Text) :
    indentFrom w false (line ++ '\n' :: rest) = line ++ '\n' :: indentLines w rest := by
  induction line with
  | nil => rfl
  | cons c line ih =>
      rw [List.mem_cons, not_or] at hline
      have hc : (c == '\n') = false := beq_false_of_ne (Ne.symm hline.1)
      rw [List.cons_append, indentFrom, hc, ih hline.2]
      rfl

theorem indentLines_unlines {ls : List Text} (hls : ∀ line ∈ ls, '\n' ∉ line) :
    indentLines w (unlines ls) = unlines (ls.map (w ++ ·)) := by
  induction ls with
  | nil => rfl
  | cons line ls ih =>
      rw [List.forall_mem_cons] at hls
      rw [unlines_cons, indentLines_of_ne_nil (by simp), indentFrom_append_newline hls.1, ih hls.2,
        List.map_cons, unlines_cons, List.append_assoc]

section

variable (hw : ∀ c ∈ w, isBlank c = true)

include hw

theorem lines_append_of_blank {t first : Text} {rest : List Text} (ht : lines t = first :: rest) :
    lines (w ++ t) = (w ++ first) :: rest := by
  induction w with
  | nil => exact ht
  | cons c w ih =>
      rw [List.forall_mem_cons] at hw
      have hbreak : c ≠ '\n' ∧ c ≠ '\r' := by
        constructor <;> rintro rfl <;> exact absurd hw.1 (by decide)
      rw [List.cons_append, lines_cons hbreak.1 fun hr => absurd hr hbreak.2, ih hw.2]
      rfl

theorem lines_indentLines_of {t : Text}
    (h : ∀ first rest, lines t = first :: rest →
      lines (indentFrom w false t) = first :: rest.map (w ++ ·)) :
    lines (indentLines w t) = (lines t).map (w ++ ·) := by
  cases ht : lines t with
  | nil =>
      rw [lines_eq_nil_iff.mp ht]
      rfl
  | cons first rest =>
      have hne : t ≠ [] := lines_eq_nil_iff.not.mp (by simp [ht])
      rw [indentLines_of_ne_nil hne, lines_append_of_blank hw (h first rest ht), List.map_cons]

/-- Behind the beginning of the first line, every line gets its blanks.  A carriage return is never
parted from its line feed, for blanks come behind a line feed only. -/
theorem lines_indentFrom (t : Text) : ∀ first rest, lines t = first :: rest →
    lines (indentFrom w false t) = first :: rest.map (w ++ ·) := by
  fun_induction lines t with
  | case1 => simp
  | case2 cs ih =>
      intro first rest h
      obtain ⟨rfl, rfl⟩ := List.cons.inj h
      exact congrArg _ (lines_indentLines_of hw ih)
  | case3 cs ih =>
      intro first rest h
      obtain ⟨rfl, rfl⟩ := List.cons.inj h
      exact congrArg _ (lines_indentLines_of hw ih)
  | case4 c cs hc hcr hnil ih =>
      intro first rest h
      obtain ⟨rfl, rfl⟩ := List.cons.inj h
      rw [lines_eq_nil_iff.mp hnil]
      exact lines_cons hc (by simp [indentFrom])
  | case5 c cs hc hcr line more hcons ih =>
      intro first rest h
      obtain ⟨rfl, rfl⟩ := List.cons.inj h
      have hhead : (indentFrom w false cs).head? = cs.head? := by cases cs <;> rfl
      have hfresh : (c == '\n') = false := beq_false_of_ne hc
      rw [indentFrom, hfresh]
      refine (lines_cons hc ?_).trans ?_
      · intro hr hnext
        rw [hhead] at hnext
        obtain ⟨ds, rfl⟩ := List.head?_eq_some_iff.mp hnext
        exact hcr ds hr rfl
      · rw [ih line more hcons]

/-- **Cut into lines, a text set further in is the lines of the text, each set further in.** -/
theorem lines_indentLines (t : Text) : lines (indentLines w t) = (lines t).map (w ++ ·) :=
  lines_indentLines_of hw (lines_indentFrom hw t)

end

end Text

/-! ### Annotations set further in -/

/-- What is captured when the annotation is set further in. -/
def Fields.indented (w : Text) (f : Fields) : Fields :=
  { f with indent := w ++ f.indent, detail := Text.indentLines w f.detail }

/-- A block that is set further in. -/
def Block.indented (w : Text) (b : Block) : Block :=
  { b with fields := b.fields.indented w }

/-- An annotation that is set further in, at the same lines. -/
def Span.indented (w : Text) (s : Span) : Span :=
  { s with fields := s.fields.indented w }

variable {w : Text}

namespace Grammar

variable {g : Grammar}

theorem header?_indented (hw : ∀ c ∈ w, Text.isBlank c = true) (line : Text) :
    g.header? (w ++ line) =
      (g.header? line).map fun (indent, title) => (w ++ indent, title) := by
  simp only [header?]
  rw [List.takeWhile_append_of_pos hw, List.dropWhile_append_of_pos hw]
  cases Text.after? g.dialect.mark (line.dropWhile Text.isBlank) with
  | none => rfl
  | some rest =>
      simp only [Option.map_map]
      rfl

theorem rating?_indented (lead : Text) (keywords : List Keyword) (line : Text) :
    rating? (w ++ lead) keywords (w ++ line) = rating? lead keywords line := by
  rw [rating?, Text.after?_append_append]
  rfl

theorem ratings?_indented (lead : Text) (below : List Text) :
    g.ratings? (w ++ lead) (below.map (w ++ ·)) =
      (g.ratings? lead below).map
        fun (quality, impact, rest) => (quality, impact, rest.map (w ++ ·)) := by
  unfold ratings?
  by_cases hrated : g.rated = true
  · simp only [if_pos hrated]
    match below with
    | [] => rfl
    | [_] => rfl
    | first :: second :: rest =>
        simp only [List.map_cons, rating?_indented]
        cases rating? lead qualityKeywords first with
        | none => rfl
        | some quality => cases rating? lead impactKeywords second <;> rfl
  · simp only [if_neg hrated, Option.map_some]

theorem takeWhile_lead_indented (lead : Text) (ls : List Text) :
    (ls.map (w ++ ·)).takeWhile (Text.startsWith (w ++ lead)) =
      (ls.takeWhile (Text.startsWith lead)).map (w ++ ·) := by
  have hsame : Text.startsWith (w ++ lead) ∘ (w ++ ·) = Text.startsWith lead := by
    funext line
    simp only [Function.comp_apply, Text.startsWith, Text.after?_append_append]
  rw [List.takeWhile_map, hsame]

/-- **The block that opens at a line is the same one, set further in.** -/
theorem blockAt?_indented (hw : ∀ c ∈ w, Text.isBlank c = true) {ls : List Text}
    (hls : ∀ line ∈ ls, '\n' ∉ line) :
    g.blockAt? (ls.map (w ++ ·)) = (g.blockAt? ls).map (Block.indented w) := by
  cases ls with
  | nil => rfl
  | cons line below =>
      simp only [List.map_cons, blockAt?, header?_indented hw]
      cases g.header? line with
      | none => rfl
      | some found =>
          obtain ⟨indent, title⟩ := found
          simp only [Option.map_some, List.append_assoc, ratings?_indented]
          cases hratings : g.ratings? (indent ++ g.dialect.mark) below with
          | none => rfl
          | some ratings =>
              obtain ⟨quality, impact, rest⟩ := ratings
              obtain ⟨-, -, hrest⟩ := ratings?_from hratings
              have hdetail : ∀ l ∈ rest.takeWhile (Text.startsWith (indent ++ g.dialect.mark)),
                  '\n' ∉ l := by
                intro l hl
                exact hls l (by simp [hrest l ((List.takeWhile_prefix _).subset hl)])
              simp only [Option.map_some, takeWhile_lead_indented, List.isEmpty_map,
                List.length_map, ← Text.indentLines_unlines hdetail]
              split <;> rfl

theorem scanFrom_indented (hw : ∀ c ∈ w, Text.isBlank c = true) (start : Nat) {ls : List Text}
    (hls : ∀ line ∈ ls, '\n' ∉ line) :
    g.scanFrom start (ls.map (w ++ ·)) = (g.scanFrom start ls).map (Span.indented w) := by
  fun_induction g.scanFrom start ls with
  | case1 start => simp [scanFrom]
  | case2 start line below b hb ih =>
      have hblock : g.blockAt? ((w ++ line) :: below.map (w ++ ·)) = some (b.indented w) := by
        rw [← List.map_cons, blockAt?_indented hw hls, hb]
        rfl
      rw [drop_height hb] at ih ⊢
      rw [List.map_cons, scanFrom_of_some hblock, ← List.map_cons, List.map_cons]
      refine congrArg _ ?_
      rw [← ih fun l hl => hls l (List.mem_of_mem_drop hl), List.map_drop]
      rfl
  | case3 start line below hb ih =>
      have hblock : g.blockAt? ((w ++ line) :: below.map (w ++ ·)) = none := by
        rw [← List.map_cons, blockAt?_indented hw hls, hb]
        rfl
      rw [List.map_cons, scanFrom_of_none hblock, ih fun l hl => hls l (by simp [hl])]

end Grammar

/-- **In a text set further in the same annotations are found, set further in.** -/
theorem matchGrammars_indentLines (grammars : List Grammar)
    (hw : ∀ c ∈ w, Text.isBlank c = true) (text : Text) :
    matchGrammars grammars (Text.indentLines w text) =
      (matchGrammars grammars text).map (Fields.indented w) := by
  have hmove : ∀ s, (Span.indented w s).start = s.start + 0 ∧
      (Span.indented w s).stop = s.stop + 0 := fun s => ⟨rfl, rfl⟩
  have hmerged : mergedFrom grammars 0 ((Text.lines text).map (w ++ ·)) =
      (mergedFrom grammars 0 (Text.lines text)).map (Candidate.mapSpan (Span.indented w)) := by
    refine mergedFrom_map hmove ?_
    intro g _
    exact Grammar.scanFrom_indented hw 0 fun line => Text.newline_notMem_of_mem_lines
  rw [matchGrammars_eq_mergedFrom, matchGrammars_eq_mergedFrom, Text.lines_indentLines hw, hmerged,
    List.map_map, List.map_map]
  rfl

/-! ### Entries -/

theorem trim_dropLead_indented (hw : ∀ c ∈ w, Text.isBlank c = true) (lead line : Text) :
    Text.trim (dropLead (w ++ lead) (w ++ line)) = Text.trim (dropLead lead line) := by
  rw [dropLead, dropLead, Text.after?_append_append]
  cases Text.after? lead line with
  | none => exact Text.trim_append_of_blank hw line
  | some rest => rfl

theorem Fields.detailText_indented (hw : ∀ c ∈ w, Text.isBlank c = true) (f : Fields) :
    (f.indented w).detailText = f.detailText := by
  have hlead : (f.indented w).lead = w ++ f.lead := List.append_assoc _ _ _
  have hdetail : (f.indented w).detail = Text.indentLines w f.detail := rfl
  simp only [Fields.detailText, cleanDetail, hlead, hdetail, Text.lines_indentLines hw,
    List.map_map, Function.comp_def, trim_dropLead_indented hw]

/-- **The indent of a text does not matter.**  With blanks in front of every line of a text the same
annotations are found in the same order, the blanks being in front of their indents and in front of
every line of their details; and an annotation is written in the same way with and without them. -/
theorem find_indent_equivariant {k : Kind} (hk : k.IsAvailable) {w : Text}
    (hw : ∀ c ∈ w, Text.isBlank c = true) :
    (∀ t, Text.lines (Text.indentLines w t) = (Text.lines t).map (w ++ ·)) ∧
    (∀ text, k.find (Text.indentLines w text) = (k.find text).map (Fields.indented w)) ∧
    ∀ (f : Fields) (number : Nat) (path : Path),
      k.render number path (f.indented w) = k.render number path f := by
  refine ⟨Text.lines_indentLines hw, matchGrammars_indentLines k.grammars hw, ?_⟩
  intro f number path
  refine hk.render_congr ?_ ?_ ?_ (f.detailText_indented hw) number path <;> rfl

/-- An assumption under an indent of its own, above one that loses its impact to another indent. -/
theorem find_indent_equivariant_mixed :
    let k := BuiltinKind.assumption.kind
    let w := [' ', '\t']
    let text := "  # Assume: a\r\n  # q: x\n  #i: y\n  #  more\n".toList ++
      "#Assume: b\n#q: x\n #i: y\n#z".toList
    (∀ c ∈ w, Text.isBlank c = true) ∧
      (k.find (Text.indentLines w text)).map (fun f => (f.indent, f.title, f.detail)) =
        [(" \t  ".toList, "a".toList, " \t  #  more\n".toList)] ∧
      ∀ f ∈ k.find text, k.render 1 [] (f.indented w) = k.render 1 [] f := by
  intro k w text
  have hw : ∀ c ∈ w, Text.isBlank c = true := by simp [w, Text.isBlank]
  obtain ⟨-, hfind, hrender⟩ := find_indent_equivariant (.builtin .assumption) hw
  refine ⟨hw, ?_, fun f _ => hrender f 1 []⟩
  rw [hfind, Kind.find, matchGrammars_eq_map_readOnce (apostropheFree_builtin .assumption)]
  decide +kernel

end AnnotationLog
