/-
The day in a log.

The markers of the date cut a template into pieces, and filling it puts the day between
them.  The kinds are then put into each piece on its own: a day begins with a digit and
has no brace, so no marker of a kind reaches into it, and none begins there.
`AroundDays` says this of a change to a text; it holds of exchanging one marker, and of
one such change after another.

Logs of two days therefore have the same pieces.  If no piece before a day ends in a
digit or a slash, no date reaches into the day from the front, so the day is erased whole
and the pieces are erased on their own, whatever they hold.
-/
import AnnotationLog.Proofs.Template.Verbatim
import Mathlib.Data.List.Infix

namespace AnnotationLog

/-! ### Days between pieces -/

/-- A text with the same day in front of each of the later pieces. -/
def dated (day first : Text) (more : List Text) : Text :=
  first ++ more.flatMap (day ++ ·)

theorem dated_cons (day first next : Text) (more : List Text) :
    dated day first (next :: more) = first ++ (day ++ dated day next more) := by
  simp [dated]

/-- The markers of the date cut a template into pieces. -/
theorem exists_pieces (template : Text) : ∃ first more, template = dated dateMarker first more ∧
    ∀ date : Date, fillDate date template = dated date.text first more := by
  have hne := isMarker_date.ne_nil
  induction template using Text.occurrence_induction hne with
  | nil => exact ⟨[], [], rfl, fun date => Text.replaceAll_nil dateMarker date.text⟩
  | occurrence rest ih =>
      obtain ⟨first, more, hrest, hfill⟩ := ih
      refine ⟨[], first :: more, by rw [dated_cons, ← hrest, List.nil_append], fun date => ?_⟩
      rw [dated_cons, ← hfill, List.nil_append]
      exact Text.replaceAll_append_left hne _ rest
  | char c rest hnot ih =>
      obtain ⟨first, more, hrest, hfill⟩ := ih
      refine ⟨c :: first, more, by rw [hrest]; rfl, fun date => ?_⟩
      have hcons : fillDate date (c :: rest) = c :: fillDate date rest :=
        Text.replaceAll_cons_of_not hnot
      rw [hcons, hfill]
      rfl

/-- A character that neither is part of a date nor closes a marker. -/
def EndsPiece (c : Char) : Prop :=
  isDateChar c = false ∧ c ≠ '}'

/-- What holds of the characters before the markers holds of the last characters of the pieces
before them. -/
theorem endsPiece_of_mem {marker first : Text} {more : List Text}
    (h : ∀ before behind, dated marker first more = before ++ (marker ++ behind) →
      ∀ c ∈ before.getLast?, EndsPiece c) :
    ∀ piece ∈ (first :: more).dropLast, ∀ c ∈ piece.getLast?, EndsPiece c := by
  induction more generalizing first with
  | nil => simp
  | cons next more ih =>
      have hnext : ∀ before behind, dated marker next more = before ++ (marker ++ behind) →
          ∀ c ∈ before.getLast?, EndsPiece c := by
        intro before behind heq c hc
        have hlast : c ∈ (first ++ (marker ++ before)).getLast? := by
          rw [← List.append_assoc]
          exact List.mem_getLast?_append_of_mem_getLast? hc
        refine h _ behind ?_ c hlast
        rw [dated_cons, heq]
        simp
      rw [List.dropLast_cons_cons, List.forall_mem_cons]
      exact ⟨h first _ (dated_cons marker first next more), ih hnext⟩

/-- It is enough to look at the fronts of a template one by one. -/
theorem before_marker {template : Text} {p : Char → Bool}
    (h : ∀ before ∈ template.inits, dateMarker <+: template.drop before.length →
      before.getLast?.all p = true) :
    ∀ before behind, template = before ++ (dateMarker ++ behind) →
      ∀ c ∈ before.getLast?, p c = true := by
  rintro before behind rfl c hc
  have hall := h before ((List.mem_inits before _).mpr (List.prefix_append before _))
    (by rw [List.drop_left]; exact List.prefix_append dateMarker behind)
  rwa [Option.mem_def.mp hc] at hall

/-! ### Changes that leave days alone -/

/-- A change of a text that passes over days and over what no marker begins or ends with. -/
structure AroundDays (f : Text → Text) : Prop where
  nil : f [] = []
  head : ∀ (c : Char) (t : Text), c ≠ '{' → f (c :: t) = c :: f t
  last : ∀ (t : Text) (c : Char), c ≠ '}' → f (t ++ [c]) = f t ++ [c]
  day : ∀ (date : Date) (x y : Text), f (x ++ (date.text ++ y)) = f x ++ (date.text ++ f y)

namespace AroundDays

variable {f g : Text → Text}

theorem unchanged : AroundDays fun t => t :=
  ⟨rfl, fun _ _ _ => rfl, fun _ _ _ => rfl, fun _ _ _ => rfl⟩

theorem comp (hg : AroundDays g) (hf : AroundDays f) : AroundDays fun t => g (f t) where
  nil := by rw [hf.nil, hg.nil]
  head c t hc := by rw [hf.head c t hc, hg.head c _ hc]
  last t c hc := by rw [hf.last t c hc, hg.last _ c hc]
  day date x y := by rw [hf.day, hg.day]

theorem map_dated (hf : AroundDays f) (date : Date) (first : Text) (more : List Text) :
    f (dated date.text first more) = dated date.text (f first) (more.map f) := by
  induction more generalizing first with
  | nil => simp [dated]
  | cons next more ih => rw [dated_cons, hf.day, ih, List.map_cons, dated_cons]

theorem of_no_brace (hf : AroundDays f) {x : Text} (hx : '{' ∉ x) : f x = x := by
  induction x with
  | nil => exact hf.nil
  | cons c x ih =>
      rw [List.mem_cons, not_or] at hx
      rw [hf.head c x (Ne.symm hx.1), ih hx.2]

/-- The last character of a piece stays. -/
theorem endsPiece (hf : AroundDays f) {piece : Text}
    (h : ∀ c ∈ piece.getLast?, EndsPiece c) : ∀ c ∈ (f piece).getLast?, EndsPiece c := by
  rcases List.eq_nil_or_concat piece with rfl | ⟨front, last, rfl⟩
  · simp [hf.nil]
  · rw [List.concat_eq_append, List.getLast?_concat] at h
    rw [List.concat_eq_append, hf.last _ _ (h last rfl).2, List.getLast?_concat]
    exact h

end AroundDays

/-- A marker of a kind: words in braces, without a digit. -/
theorem marker_braced (b : BuiltinKind) : ∃ body, b.marker = '{' :: (body ++ ['}']) ∧
    b.marker.all (!Text.isDigit ·) = true := by
  refine ⟨b.marker.tail.dropLast, ?_, ?_⟩ <;> cases b <;> decide

theorem aroundDays_replaceAll (b : BuiltinKind) (new : Text) :
    AroundDays (Text.replaceAll b.marker new) := by
  obtain ⟨body, hmarker, hdigit⟩ := marker_braced b
  have hne := (isMarker_builtin b).ne_nil
  constructor
  case nil => exact Text.replaceAll_nil _ _
  case head =>
    intro c t hc
    refine Text.replaceAll_cons_of_not fun hbegins => ?_
    rw [hmarker, List.cons_prefix_cons] at hbegins
    exact hc hbegins.1.symm
  case last =>
    intro t c hc
    rw [hmarker, ← List.cons_append]
    exact Text.replaceAll_append_right (by simpa using hc.symm)
  case day =>
    intro date x y
    obtain ⟨⟨c, more, htext, hc⟩, -⟩ := date.text_chars
    have hfirst : c ∉ b.marker := by
      intro hmem
      have hnot := List.all_eq_true.mp hdigit c hmem
      rw [hc] at hnot
      simp at hnot
    have hmore : '{' ∉ more := fun h => brace_notMem_date date (htext ▸ List.mem_cons_of_mem c h)
    rw [htext, List.cons_append, Text.replaceAll_append_cons hne hfirst, hmarker,
      Text.replaceAll_append_of_notMem hmore, List.cons_append]

theorem aroundDays_fillKinds (type : LogType) (s : Session) :
    AroundDays (fillKinds (Registry.forLogType type) s) := by
  have hall : ∀ kinds : List (Kind × Nat), (∀ k ∈ kinds, ∃ b : BuiltinKind, k.1 = b.kind) →
      AroundDays fun text => kinds.foldl (fun text k =>
        Text.replaceAll k.1.marker (k.1.replacement (s.rendered k.2)) text) text := by
    intro kinds hkinds
    induction kinds with
    | nil => exact AroundDays.unchanged
    | cons k kinds ih =>
        obtain ⟨b, hb⟩ := hkinds k List.mem_cons_self
        have hfirst := aroundDays_replaceAll b (k.1.replacement (s.rendered k.2))
        rw [show b.marker = k.1.marker by rw [hb]; rfl] at hfirst
        exact (ih fun k hk => hkinds k (List.mem_cons_of_mem _ hk)).comp hfirst
  refine hall _ ?_
  rintro ⟨k, i⟩ hk
  have hmem : k ∈ (Registry.forLogType type).kinds :=
    List.mem_of_getElem? (List.mem_zipIdx_iff_getElem?.mp hk)
  obtain ⟨b, -, rfl⟩ := List.mem_map.mp hmem
  exact ⟨b, rfl⟩

/-! ### Erasing the day -/

theorem eraseDates_dated {date : Date} (hdate : date.Plain) {first : Text} {more : List Text}
    (h : ∀ piece ∈ (first :: more).dropLast, ∀ c ∈ piece.getLast?, EndsPiece c) :
    eraseDates (dated date.text first more) = eraseDates first ++ more.flatMap eraseDates := by
  induction more generalizing first with
  | nil => simp [dated]
  | cons next more ih =>
      rw [List.dropLast_cons_cons, List.forall_mem_cons] at h
      have hday : eraseDates (date.text ++ dated date.text next more) =
          (next :: more).flatMap eraseDates := by
        rw [eraseDates_append (Date.isDate_text hdate), ih h.2, List.flatMap_cons]
      rw [dated_cons]
      rcases List.eq_nil_or_concat first with rfl | ⟨front, last, rfl⟩
      · rw [List.nil_append, hday, eraseDates_nil, List.nil_append]
      · rw [List.concat_eq_append, List.getLast?_concat] at h
        have hlast := (h.1 last rfl).1
        rw [List.concat_eq_append, List.append_assoc, List.singleton_append,
          eraseDates_append_cons hlast, hday, eraseDates_append_cons hlast, eraseDates_nil,
          List.append_assoc, List.singleton_append]

/-- A log with its dates erased does not depend on the day. -/
theorem eraseDates_compose (type : LogType) (s : Session) {d e : Date} (hd : d.Plain)
    (he : e.Plain) {template : Text}
    (hbefore : ∀ before behind, template = before ++ (dateMarker ++ behind) →
      ∀ c ∈ before.getLast?, EndsPiece c) :
    eraseDates (compose (Registry.forLogType type) s d template).1 =
      eraseDates (compose (Registry.forLogType type) s e template).1 := by
  obtain ⟨first, more, htemplate, hfill⟩ := exists_pieces template
  rw [htemplate] at hbefore
  have hf := aroundDays_fillKinds type (s.finalize (Registry.forLogType type))
  have hpieces : ∀ piece ∈ ((first :: more).map (fillKinds (Registry.forLogType type)
      (s.finalize (Registry.forLogType type)))).dropLast, ∀ c ∈ piece.getLast?, EndsPiece c := by
    intro piece hpiece
    rw [← List.map_dropLast] at hpiece
    obtain ⟨p, hp, rfl⟩ := List.mem_map.mp hpiece
    exact hf.endsPiece (endsPiece_of_mem hbefore p hp)
  rw [List.map_cons] at hpieces
  show eraseDates (fillKinds _ _ (fillDate d template)) =
    eraseDates (fillKinds _ _ (fillDate e template))
  rw [hfill, hfill, hf.map_dated, hf.map_dated, eraseDates_dated hd hpieces, eraseDates_dated he hpieces]

/-- **Logs of the same annotations are the same up to dates on any two days.**  The template may be
any in which every marker of the date stands at the start or behind a character that is no digit,
slash or closing brace; what stands behind the marker, and what dates the template and the
annotations hold, does not matter. -/
theorem compose_same_except_day (type : LogType) (s : Session) {d e : Date} (hd : d.Plain)
    (he : e.Plain) {template : Text}
    (hbefore : ∀ before behind, template = before ++ (dateMarker ++ behind) →
      ∀ c ∈ before.getLast?, Text.isDigit c = false ∧ c ≠ '/' ∧ c ≠ '}') :
    sameExceptDates (compose (Registry.forLogType type) s d template).1
      (compose (Registry.forLogType type) s e template).1 = true := by
  rw [sameExceptDates, beq_iff_eq]
  refine eraseDates_compose type s hd he fun before behind heq c hc => ?_
  obtain ⟨hdigit, hslash, hbrace⟩ := hbefore before behind heq c hc
  exact ⟨by simp [isDateChar, hdigit, hslash], hbrace⟩

/-- A day in front of something that looks like the rest of another date, and annotations that
hold dates. -/
theorem compose_same_except_day_crowded :
    let day (year : Int) (h : 0 ≤ year ∧ year ≤ 9999) : Date :=
      { year, month := 1, day := 2, year_ge := by omega, year_le := by omega,
        month_ge := by decide, month_le := by decide, day_ge := by decide,
        day_le := by simp [daysInMonth] }
    let template :=
      "{ current_date }/11/2001 { todos } { current_date }3".toList
    let r := Registry.forLogType .todoList
    let s := Session.empty.scan r "p/f.py".toList "# Todo: by 01/02/2003/04\n".toList
    sameExceptDates (compose r s (day 0 (by decide)) template).1
      (compose r s (day 9999 (by decide)) template).1 = true := by
  intro day template r s
  refine compose_same_except_day .todoList s (by decide) (by decide) fun before behind heq c hc => ?_
  have hlast := before_marker (p := fun c => !Text.isDigit c && c != '/' && c != '}')
    (by decide +kernel) before behind heq c hc
  simpa [and_assoc] using hlast

end AnnotationLog
