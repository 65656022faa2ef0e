/-
The log of assumptions and caveats with the built-in template.

The parts of this log can be written out: a front, the day, and a body that holds what
stands for the assumptions, with every marker of the caveats in it exchanged, and what
stands for the caveats.  What holds of the logs of all types is so carried over to the
text; and the number signs of the body grow with the findings, which no erasing of
dates can undo.
-/
import AnnotationLog.Proofs.Kind.Tally
import AnnotationLog.Proofs.Log.Parts

namespace AnnotationLog

/-- The log up to the day, without the space before it. -/
def logFront : Text :=
  Text.unlines ["# Assumptions and Caveats Log".toList, [],
    "This document is automatically generated from in-code comments.".toList, []] ++
    "Last updated:".toList

/-- The heading above the assumptions, from the line feed behind the day on. -/
def assumptionsHead : Text :=
  "\n\n## Assumptions\n\n".toList

/-- The heading above the caveats, from the line feed behind the assumptions on. -/
def caveatsHead : Text :=
  "\n\n## Caveats\n\n".toList

/-- The log behind the day. -/
def logBody (assumptions caveats : List Finding) : Text :=
  assumptionsHead ++
    (Text.replaceAll BuiltinKind.caveat.marker (BuiltinKind.caveat.passage caveats)
      (BuiltinKind.assumption.passage assumptions) ++
      (caveatsHead ++ (BuiltinKind.caveat.passage caveats ++ ['\n'])))

/-- The log of some assumptions and caveats. -/
def standardLog (assumptions caveats : List Finding) (date : Date) : Text :=
  logFront ++ ' ' :: (date.text ++ logBody assumptions caveats)

/-! ### The parts -/

theorem parts_standard : LogType.assumptionsCaveats.opening = logFront ++ [' '] ∧
    LogType.assumptionsCaveats.closing =
      assumptionsHead ++ (BuiltinKind.assumption.marker ++
        (caveatsHead ++ (BuiltinKind.caveat.marker ++ ['\n']))) := by
  unfold LogType.closing LogType.opening LogType.template LogType.templateHead logFront
  -- As lists of characters the words are evaluated much faster than as literals.
  repeat rw [String.toList_ofList]
  decide +kernel

/-- A text without a brace is passed over. -/
theorem replaceAll_append_of_no_brace {m x : Text} (hm : IsMarker m) (hx : '{' ∉ x)
    (new t : Text) : Text.replaceAll m new (x ++ t) = x ++ Text.replaceAll m new t := by
  obtain ⟨body, rfl, -⟩ := hm
  exact Text.replaceAll_append_of_notMem hx

theorem no_brace : '{' ∉ assumptionsHead ∧ '{' ∉ caveatsHead.tail := by
  decide

theorem fill_assumptions (new : Text) :
    Text.replaceAll BuiltinKind.assumption.marker new LogType.assumptionsCaveats.closing =
      assumptionsHead ++ (new ++ (caveatsHead ++ (BuiltinKind.caveat.marker ++ ['\n']))) := by
  have hm := isMarker_builtin .assumption
  have hrest : ¬ BuiltinKind.assumption.marker <:+:
      caveatsHead ++ (BuiltinKind.caveat.marker ++ ['\n']) := by
    decide
  rw [parts_standard.2, replaceAll_append_of_no_brace hm no_brace.1,
    Text.replaceAll_append_left hm.ne_nil, Text.replaceAll_eq_self hrest]

theorem fill_caveats (assumptions new : Text) :
    Text.replaceAll BuiltinKind.caveat.marker new
        (assumptionsHead ++ (assumptions ++
          (caveatsHead ++ (BuiltinKind.caveat.marker ++ ['\n'])))) =
      assumptionsHead ++ (Text.replaceAll BuiltinKind.caveat.marker new assumptions ++
        (caveatsHead ++ (new ++ ['\n']))) := by
  have hm := isMarker_builtin .caveat
  have hhead : caveatsHead = '\n' :: caveatsHead.tail := by decide
  have hnewline : '\n' ∉ BuiltinKind.caveat.marker := by decide
  have hrest : ¬ BuiltinKind.caveat.marker <:+: ['\n'] := by decide
  rw [replaceAll_append_of_no_brace hm no_brace.1, hhead, List.cons_append,
    Text.replaceAll_append_cons hm.ne_nil hnewline,
    replaceAll_append_of_no_brace hm no_brace.2, Text.replaceAll_append_left hm.ne_nil,
    Text.replaceAll_eq_self hrest, List.cons_append]

theorem body_standard (s : Session) :
    LogType.assumptionsCaveats.body s = logBody (s.matched 0) (s.matched 1) := by
  have hassumptions := Session.rendered_finalize (r := .forLogType .assumptionsCaveats) (i := 0)
    (k := BuiltinKind.assumption.kind) rfl s
  have hcaveats := Session.rendered_finalize (r := .forLogType .assumptionsCaveats) (i := 1)
    (k := BuiltinKind.caveat.kind) rfl s
  rw [logBody, ← fill_caveats, ← fill_assumptions]
  show Text.replaceAll _ (Kind.replacement _ (Session.rendered _ 1))
    (Text.replaceAll _ (Kind.replacement _ (Session.rendered _ 0)) _) = _
  rw [hassumptions, hcaveats]
  rfl

/-- **The built-in template filled.** -/
theorem log_standard (s : Session) (date : Date) :
    LogType.assumptionsCaveats.log s date = standardLog (s.matched 0) (s.matched 1) date := by
  rw [LogType.log_eq, body_standard, parts_standard.1, standardLog, List.append_assoc,
    List.singleton_append]

/-- Any findings are those of some session. -/
theorem exists_log_eq_standardLog (assumptions caveats : List Finding) :
    ∃ s : Session, (∀ date, LogType.assumptionsCaveats.log s date =
        standardLog assumptions caveats date) ∧
      ∀ i, ∀ f ∈ s.matched i, f ∈ assumptions ∨ f ∈ caveats := by
  refine ⟨{ slots := [{ matched := assumptions }, { matched := caveats }] },
    log_standard _, fun i f hf => ?_⟩
  match i with
  | 0 => exact Or.inl hf
  | 1 => exact Or.inr hf
  | i + 2 => exact absurd hf List.not_mem_nil

/-- Two logs of the same findings are the same up to dates exactly if the days are the same or
both are erased. -/
theorem sameExceptDates_standardLog_iff (assumptions caveats : List Finding) {d e : Date} :
    sameExceptDates (standardLog assumptions caveats d) (standardLog assumptions caveats e) =
      true ↔ d = e ∨ d.Plain ∧ e.Plain := by
  obtain ⟨s, hlog, -⟩ := exists_log_eq_standardLog assumptions caveats
  rw [← hlog, ← hlog, LogType.sameExceptDates_log_iff]
  exact and_iff_left rfl

theorem nul_notMem_standardLog {assumptions caveats : List Finding}
    (hassumptions : ∀ f ∈ assumptions, f.NulFree) (hcaveats : ∀ f ∈ caveats, f.NulFree)
    (date : Date) : '\x00' ∉ standardLog assumptions caveats date := by
  obtain ⟨s, hlog, hmatched⟩ := exists_log_eq_standardLog assumptions caveats
  rw [← hlog]
  refine nul_notMem_log _ (fun i f hf => ?_) date
  exact (hmatched i f hf).elim (hassumptions f) (hcaveats f)

/-! ### Number signs -/

theorem count_standardLog (assumptions caveats : List Finding) (date : Date) :
    (standardLog assumptions caveats date).count '#' =
      (logFront.count '#' + assumptionsHead.count '#' + caveatsHead.count '#') +
        ((Text.replaceAll BuiltinKind.caveat.marker (BuiltinKind.caveat.passage caveats)
          (BuiltinKind.assumption.passage assumptions)).count '#' +
        (BuiltinKind.caveat.passage caveats).count '#') := by
  have hdate : date.text.count '#' = 0 := by
    rw [List.count_eq_zero]
    intro hc
    rcases date.text_chars.2 _ hc with h | h | h <;> exact absurd h (by decide)
  have hspace : ([' '] : Text).count '#' = 0 := by decide
  have hnewline : (['\n'] : Text).count '#' = 0 := by decide
  rw [standardLog, logBody, ← List.singleton_append (l := date.text ++ _)]
  simp only [List.count_append, hdate, hspace, hnewline]
  omega

/-- **A log of more findings has more number signs.** -/
theorem count_standardLog_lt {before new behind before' new' behind' : List Finding}
    (hnew : new ≠ [] ∨ new' ≠ []) (d e : Date) :
    (standardLog (before ++ behind) (before' ++ behind') d).count '#' <
      (standardLog (before ++ (new ++ behind)) (before' ++ (new' ++ behind')) e).count '#' := by
  have hmarker : BuiltinKind.caveat.marker = '{' :: (" caveats ".toList ++ ['}']) := by
    decide
  have htally : ∀ text : Text,
      Tally fun t => (Text.replaceAll BuiltinKind.caveat.marker text t).count '#' := by
    intro text
    rw [hmarker]
    exact tally_replaceAll (by decide)
  have hmessage : ∀ text : Text, (Text.replaceAll BuiltinKind.caveat.marker text
      (Text.trim BuiltinKind.assumption.emptyMessage)).count '#' = 0 := by
    intro text
    rw [Text.replaceAll_eq_self (by decide)]
    decide
  have hmessage' : (Text.trim BuiltinKind.caveat.emptyMessage).count '#' = 0 := by
    decide
  -- The caveats grow, and with them what the assumptions have in place of a marker.
  have hcaveats := tally_count.passage_insert (b := .caveat) (by decide) hmessage' before' new'
    behind'
  have hreplaced := Text.count_replaceAll_le (isMarker_builtin .caveat).ne_nil
    (Nat.le_of_add_right_le hcaveats)
    (BuiltinKind.assumption.passage (before ++ (new ++ behind)))
  have hassumptions := (htally (BuiltinKind.caveat.passage (before' ++ behind'))).passage_insert
    (b := .assumption) (by decide) (hmessage _) before new behind
  rw [count_standardLog, count_standardLog]
  rcases hnew with hnew | hnew
  · have := List.length_pos_iff.mpr hnew
    omega
  · have := List.length_pos_iff.mpr hnew
    omega

/-- So it is never the same up to dates. -/
theorem sameExceptDates_standardLog_insert {before new behind before' new' behind' : List Finding}
    (hnew : new ≠ [] ∨ new' ≠ []) (d e : Date) :
    sameExceptDates (standardLog (before ++ behind) (before' ++ behind') d)
      (standardLog (before ++ (new ++ behind)) (before' ++ (new' ++ behind')) e) = false := by
  rw [sameExceptDates, beq_eq_false_iff_ne]
  intro heq
  have hcount := congrArg (List.count '#') heq
  rw [count_eraseDates (by decide), count_eraseDates (by decide)] at hcount
  exact Nat.ne_of_lt (count_standardLog_lt hnew d e) hcount

end AnnotationLog
