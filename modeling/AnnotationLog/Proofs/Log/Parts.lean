/-
The parts of a log with a built-in template.

Such a log is an opening, the day and a body that does not depend on the day.  A space
stands before the day and a line feed behind it, so the three are rid of their dates on
their own, and two logs are the same up to dates exactly if their days and their bodies
are.  The whole depends on what was found and on nothing else of the session.
-/
import AnnotationLog.Proofs.Kind.Entry
import AnnotationLog.Proofs.Template.Day

namespace AnnotationLog

namespace LogType

/-- The built-in template before the day. -/
def opening (type : LogType) : Text :=
  type.template.takeWhile (· != '{')

/-- The built-in template behind the day. -/
def closing (type : LogType) : Text :=
  type.template.drop (type.opening.length + dateMarker.length)

/-- The log of a session with the built-in kinds and the built-in template. -/
def log (type : LogType) (s : Session) (date : Date) : Text :=
  (compose (Registry.forLogType type) s date type.template).1

/-- The log behind the day. -/
def body (type : LogType) (s : Session) : Text :=
  fillKinds (Registry.forLogType type) (s.finalize (Registry.forLogType type)) type.closing

variable (type : LogType) (s s' : Session)

theorem template_split : type.template = type.opening ++ (dateMarker ++ type.closing) ∧
    type.opening.getLast? = some ' ' ∧ type.closing.head? = some '\n' ∧
    '{' ∉ type.opening ∧ '/' ∉ type.opening ∧ ¬ dateMarker <:+: type.closing ∧
    '\x00' ∉ type.template := by
  unfold closing opening template templateHead dateMarker
  -- As lists of characters the words are evaluated much faster than as literals.
  repeat rw [String.toList_ofList]
  cases type <;> decide +kernel

theorem fillDate_template (date : Date) :
    fillDate date type.template = type.opening ++ (date.text ++ type.closing) := by
  obtain ⟨hsplit, -, -, hopening, -, hclosing, -⟩ := type.template_split
  obtain ⟨m, hmarker, -⟩ := isMarker_date
  rw [fillDate, hsplit, hmarker, Text.replaceAll_append_of_notMem hopening, ← hmarker,
    Text.replaceAll_append_left isMarker_date.ne_nil, Text.replaceAll_eq_self hclosing]

theorem log_eq (date : Date) :
    type.log s date = type.opening ++ (date.text ++ type.body s) := by
  have hf := aroundDays_fillKinds type (s.finalize (Registry.forLogType type))
  show fillKinds _ _ (fillDate date type.template) = _
  rw [fillDate_template, hf.day, hf.of_no_brace type.template_split.2.2.2.1]
  rfl

theorem body_head : ∃ rest, type.body s = '\n' :: rest := by
  obtain ⟨tail, htail⟩ := List.head?_eq_some_iff.mp type.template_split.2.2.1
  have hf := aroundDays_fillKinds type (s.finalize (Registry.forLogType type))
  exact ⟨_, by rw [body, htail, hf.head _ _ (by decide)]⟩

/-- Dates are erased in the opening, the day and the body on their own. -/
theorem eraseDates_log (date : Date) : eraseDates (type.log s date) =
    eraseDates type.opening ++ (eraseDates date.text ++ eraseDates (type.body s)) := by
  obtain ⟨front, hfront⟩ := List.getLast?_eq_some_iff.mp type.template_split.2.1
  obtain ⟨rest, hrest⟩ := type.body_head s
  have hspace : ∀ x y, eraseDates (x ++ ' ' :: y) = eraseDates x ++ ' ' :: eraseDates y :=
    eraseDates_append_cons (by decide)
  rw [log_eq, hfront, hrest, List.append_assoc, List.singleton_append, hspace,
    eraseDates_append_cons (by decide), hspace, eraseDates_nil, eraseDates_cons (by decide),
    List.append_assoc, List.singleton_append]

/-- **Two logs are the same up to dates exactly if their days and their bodies are.** -/
theorem sameExceptDates_log_iff (d d' : Date) :
    sameExceptDates (type.log s d) (type.log s' d') = true ↔
      (d = d' ∨ d.Plain ∧ d'.Plain) ∧
        eraseDates (type.body s) = eraseDates (type.body s') := by
  have hday : ∀ date : Date, '\n' ∉ eraseDates date.text := by
    intro date hmem
    rcases date.text_chars.2 _ ((mem_eraseDates_iff (by decide)).mp hmem) with h | h | h <;>
      exact absurd h (by decide)
  have hbody : ∀ s, ∃ rest, eraseDates (type.body s) = '\n' :: rest := by
    intro s
    obtain ⟨rest, hrest⟩ := type.body_head s
    exact ⟨_, by rw [hrest, eraseDates_cons (by decide)]⟩
  rw [sameExceptDates, beq_iff_eq, eraseDates_log, eraseDates_log, List.append_cancel_left_eq,
    ← Date.eraseDates_text_eq_iff]
  constructor
  · intro h
    obtain ⟨rest, hrest⟩ := hbody s
    obtain ⟨rest', hrest'⟩ := hbody s'
    rw [hrest, hrest'] at h ⊢
    obtain ⟨hdays, hrests⟩ := Text.first_cut_unique (hday d) (hday d') h
    exact ⟨hdays, by rw [hrests]⟩
  · rintro ⟨hdays, hbodies⟩
    rw [hdays, hbodies]

end LogType

/-! ### What a log depends on -/

/-- A log depends on what was found, not on what was written before. -/
theorem LogType.log_congr (type : LogType) {s s' : Session}
    (h : ∀ i, s'.matched i = s.matched i) (date : Date) : type.log s' date = type.log s date := by
  rw [log, log, compose_eq_foldl, compose_eq_foldl, tokens, tokens]
  simp only [h]

theorem nul_notMem_log (type : LogType) {s : Session} (h : ∀ i, ∀ f ∈ s.matched i, f.NulFree)
    (date : Date) : '\x00' ∉ type.log s date := by
  have hfold : ∀ (ts : List Token) (text : Text),
      (∀ token ∈ ts, token.piece ≠ [] ∧ '\x00' ∉ token.new) → '\x00' ∉ text →
        '\x00' ∉ ts.foldl (fun text token => Text.replaceAll token.piece token.new text) text := by
    intro ts
    induction ts with
    | nil => exact fun _ _ htext => htext
    | cons token ts ih =>
        intro text hts htext
        obtain ⟨hpiece, hnew⟩ := hts token List.mem_cons_self
        refine ih _ (fun t ht => hts t (List.mem_cons_of_mem _ ht)) fun hc => ?_
        rcases Text.mem_replaceAll hpiece hc with hc | hc
        · exact hnew hc
        · exact htext hc
  rw [LogType.log, compose_eq_foldl]
  refine hfold _ _ ?_ type.template_split.2.2.2.2.2.2
  intro token htoken
  rcases List.mem_cons.mp htoken with rfl | htoken
  · refine ⟨isMarker_date.ne_nil, fun hc => ?_⟩
    rcases date.text_chars.2 _ hc with h | h | h <;> exact absurd h (by decide)
  · obtain ⟨⟨k, i⟩, hk, rfl⟩ := List.mem_map.mp htoken
    have hmem : k ∈ (Registry.forLogType type).kinds :=
      List.mem_of_getElem? (List.mem_zipIdx_iff_getElem?.mp hk)
    obtain ⟨b, -, rfl⟩ := List.mem_map.mp hmem
    exact ⟨(isMarker_builtin b).ne_nil, nul_notMem_passage b (h i)⟩

end AnnotationLog
