/-
When the text of annotations goes into a log as it is.

A log is filled by putting in the date and then the kinds one after another, each
over the whole text reached so far.  For a single kind this is the same as one pass
over the template, because a date holds no brace.  With assumptions and caveats the
marker of the caveats is looked for in the text of the assumptions too, and it is
found there if an annotation holds it, or ends in a piece of it that the template
completes.  `compose_verbatim_iff` says that this is the only thing that can go
wrong, and that the log differs whenever it happens.
-/
import AnnotationLog.Proofs.Kind.Replacement
import AnnotationLog.Proofs.Session
import AnnotationLog.Proofs.Template.Substitute

namespace AnnotationLog

/-- The date as a token. -/
def dateToken (date : Date) : Token where
  piece := dateMarker
  new := date.text

/-- What a log puts in: the date and, for every registered kind, the entries of its findings or
its message. -/
def tokens (r : Registry) (s : Session) (date : Date) : List Token :=
  dateToken date :: r.kinds.zipIdx.map fun (k, i) =>
    { piece := k.marker, new := k.replacement (k.renderAll (s.matched i)) }

/-- A log is the template with one token after another put in. -/
theorem compose_eq_foldl (r : Registry) (s : Session) (date : Date) (template : Text) :
    (compose r s date template).1 =
      (tokens r s date).foldl (fun text token => Text.replaceAll token.piece token.new text)
        template := by
  rw [tokens, List.foldl_cons, List.foldl_map]
  show fillKinds r (s.finalize r) (fillDate date template) = _
  rw [fillKinds]
  refine List.foldl_ext _ _ _ ?_
  rintro text ⟨k, i⟩ hk
  show Text.replaceAll k.marker (k.replacement ((s.finalize r).rendered i)) text = _
  rw [Session.rendered_finalize (k := k) (i := i) (List.mem_zipIdx_iff_getElem?.mp hk)]

/-! ### The markers -/

theorem isMarker_date : IsMarker dateMarker :=
  ⟨_, rfl, by decide⟩

theorem isMarker_builtin (b : BuiltinKind) : IsMarker b.marker := by
  cases b <;> exact ⟨_, rfl, by decide⟩

theorem fits_nil (m : Text) : Fits [] m :=
  ⟨by simp, by simp, by simp⟩

theorem dateToken_first (date : Date) :
    ∃ c more, (dateToken date).new = c :: more ∧ isLeading c = true := by
  obtain ⟨c, more, htext, hdigit⟩ := date.text_chars.1
  exact ⟨c, more, htext, by rw [isLeading, hdigit, Bool.true_or]⟩

theorem fits_date (date : Date) (b : BuiltinKind) : Fits [dateToken date] b.marker := by
  refine ⟨by simpa [dateToken] using isMarker_date, by simp, ?_⟩
  intro token htoken
  rw [List.mem_singleton.mp htoken]
  obtain ⟨c, more, htext, hc⟩ := dateToken_first date
  exact ⟨c, more, htext, b.leading_notMem_marker hc⟩

/-- The assumptions of a log as a token. -/
def assumptionsToken (findings : List Finding) : Token where
  piece := BuiltinKind.assumption.marker
  new := BuiltinKind.assumption.passage findings

theorem fits_assumptions (date : Date) (findings : List Finding) :
    Fits [dateToken date, assumptionsToken findings] BuiltinKind.caveat.marker := by
  refine ⟨?_, ?_, ?_⟩
  · simpa [dateToken, assumptionsToken] using ⟨isMarker_date, isMarker_builtin .assumption⟩
  · have hapart : ¬ dateMarker <+: BuiltinKind.assumption.marker ∧
        ¬ BuiltinKind.assumption.marker <+: dateMarker := by
      decide
    simp [dateToken, assumptionsToken, hapart]
  · intro token htoken
    rcases (by simpa using htoken : token = dateToken date ∨ token = assumptionsToken findings)
      with rfl | rfl
    · exact (fits_date date .caveat).first _ (by simp)
    · obtain ⟨c, more, hpassage, hc⟩ := BuiltinKind.passage_first .assumption findings
      exact ⟨c, more, hpassage, BuiltinKind.caveat.leading_notMem_marker hc⟩

/-! ### The passes -/

theorem expands_cons_iff {token : Token} {tokens : List Token} {m t : Text} :
    Expands (token :: tokens) m t ↔
      (∃ u v, t = u ++ (token.piece ++ v) ∧ Text.StartsIn m token.new v) ∨
        Expands tokens m t := by
  simp [Expands]

theorem not_expands_empty (m t : Text) : ¬ Expands [] m t := by
  simp [Expands]

theorem brace_notMem_date (date : Date) : '{' ∉ date.text := by
  intro hc
  rcases date.text_chars.2 _ hc with h | h | h <;> exact absurd h (by decide)

/-- No marker begins in a date. -/
theorem expands_date_iff (date : Date) {tokens : List Token} {m t : Text} (hm : IsMarker m) :
    Expands (dateToken date :: tokens) m t ↔ Expands tokens m t := by
  obtain ⟨body, rfl, -⟩ := hm
  rw [expands_cons_iff]
  refine or_iff_right ?_
  rintro ⟨u, v, -, hin⟩
  exact Text.not_startsIn_of_notMem (brace_notMem_date date) hin

theorem substitute_no_tokens (t : Text) : substitute [] t = t := by
  induction t with
  | nil => exact substitute_nil []
  | cons c t ih => rw [substitute_of_none (by simp), ih]

theorem fillDate_eq_substitute (date : Date) (template : Text) :
    fillDate date template = substitute [dateToken date] template := by
  have h := replaceAll_substitute (dateToken date) (fits_nil _) isMarker_date
    (not_expands_empty dateMarker template)
  rw [substitute_no_tokens] at h
  exact h

/-- One kind after the date is one pass. -/
theorem replaceAll_fillDate (b : BuiltinKind) (new : Text) (date : Date) (template : Text) :
    Text.replaceAll b.marker new (fillDate date template) =
      substitute [dateToken date, { piece := b.marker, new }] template := by
  have hclear : ¬ Expands [dateToken date] b.marker template := by
    rw [expands_date_iff date (isMarker_builtin b)]
    exact not_expands_empty _ _
  rw [fillDate_eq_substitute]
  exact replaceAll_substitute { piece := b.marker, new } (fits_date date b)
    (isMarker_builtin b) hclear

/-- Caveats after the assumptions are one pass exactly if no marker of theirs begins in the text
of the assumptions. -/
theorem replaceAll_caveats_iff (s : Session) (date : Date) (template : Text)
    (found : List Finding) :
    Text.replaceAll BuiltinKind.caveat.marker (BuiltinKind.caveat.passage found)
        (substitute [dateToken date, assumptionsToken (s.matched 0)] template) =
      substitute ([dateToken date, assumptionsToken (s.matched 0)] ++
        [{ piece := BuiltinKind.caveat.marker, new := BuiltinKind.caveat.passage found }])
          template ↔
      ¬ Expands [assumptionsToken (s.matched 0)] BuiltinKind.caveat.marker template := by
  let last : Token :=
    { piece := BuiltinKind.caveat.marker, new := BuiltinKind.caveat.passage found }
  have hfit := fits_assumptions date (s.matched 0)
  have hlast : IsMarker last.piece := isMarker_builtin .caveat
  rw [← expands_date_iff date hlast]
  constructor
  · intro heq hexp
    have hlt := (length_substitute_le last hfit hlast
      (BuiltinKind.length_marker_lt_passage found) template).2 hexp
    rw [show Text.replaceAll last.piece last.new _ = _ from heq] at hlt
    exact Nat.lt_irrefl _ hlt
  · exact replaceAll_substitute last hfit hlast

/-- **Annotations go into a log as they are exactly if no caveat marker begins in the text of the
assumptions.**  For every template, session and day the log is the template in which every marker
was exchanged in one pass, unless the log is one of assumptions and caveats and somewhere in the
template the text put in for the assumptions holds the marker of the caveats, or ends in a piece
of it that the template completes.  In that case it never is. -/
theorem compose_verbatim_iff (type : LogType) (s : Session) (date : Date) (template : Text) :
    (compose (Registry.forLogType type) s date template).1 =
        substitute (tokens (Registry.forLogType type) s date) template ↔
      (type = .assumptionsCaveats → ∀ before behind,
        template = before ++ (BuiltinKind.assumption.marker ++ behind) →
          ¬ Text.StartsIn BuiltinKind.caveat.marker
            (BuiltinKind.assumption.passage (s.matched 0)) behind) := by
  rw [compose_eq_foldl]
  cases type with
  | todoList => exact iff_of_true (replaceAll_fillDate .todo _ date template) (by simp)
  | technicalDebt => exact iff_of_true (replaceAll_fillDate .debt _ date template) (by simp)
  | assumptionsCaveats =>
      have h := replaceAll_caveats_iff s date template (s.matched 1)
      have hfirst := replaceAll_fillDate .assumption
        (BuiltinKind.assumption.passage (s.matched 0)) date template
      rw [expands_cons_iff] at h
      simp only [not_expands_empty, or_false, not_exists, not_and] at h
      rw [← show _ = substitute [dateToken date, assumptionsToken (s.matched 0)] template
        from hfirst] at h
      exact h.trans (by simp [assumptionsToken])

/-- The log of an assumption whose title holds the marker of the caveats. -/
theorem compose_not_verbatim : ∃ date : Date,
    let r := Registry.forLogType .assumptionsCaveats
    let s := Session.empty.scan r "p/f.py".toList
      ("# Assumption: use { caveats } here\n# Quality: good\n# Impact: low\n# text\n").toList
    (compose r s date BuiltinKind.assumption.marker).1 ≠
      substitute (tokens r s date) BuiltinKind.assumption.marker := by
  refine ⟨{ year := 2024, month := 1, day := 2, year_ge := by decide, year_le := by decide,
            month_ge := by decide, month_le := by decide, day_ge := by decide,
            day_le := by decide }, ?_⟩
  decide +kernel

end AnnotationLog
