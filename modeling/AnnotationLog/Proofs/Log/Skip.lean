/-
When a log on disk is left alone.

A log on disk that can be read is compared with the new one up to dates.  So it is left
alone exactly if the days are the same or both are erased, and the bodies are the same
without their dates.

Annotations that differ in nothing but a date are not told apart by this.  Where the day
is the only date of either log, being left alone means that the logs are the same.
-/
import AnnotationLog.Proofs.Log.Parts
import AnnotationLog.Proofs.Log.TodoList
import AnnotationLog.Proofs.Log.Write

namespace AnnotationLog

/-! ### Reading the log back -/

/-- A log on disk is compared if it can be read. -/
theorem hasChanged_of_readBytes {fs : FileSystem} {out : Path} {old : Text}
    (hdisk : fs.readBytes out = .ok (Utf8.encode old)) (text : Text) :
    hasChanged fs out text = if isBinary (Utf8.encode old) then .error (.write out .binary)
      else .ok (!sameExceptDates old text) := by
  have hexists : fs.exists? out = true := by
    rw [FileSystem.exists?]
    cases hstat : fs.stat out with
    | ok entry => rfl
    | error e => simp [FileSystem.readBytes, hstat] at hdisk
  rw [hasChanged, if_pos hexists, FileSystem.readText, hdisk]
  simp only [Utf8.decodeText_encode_eq]
  cases isBinary (Utf8.encode old) <;> rfl

section

variable {fs : FileSystem} {r : Registry} {builtin : Text} {out : Path} {s : Session}
  {dryRun : Bool} {date : Date}

/-- What a run can do: it leaves the files alone and gives the answer of the comparison, or the
log has changed and is on disk afterwards if the run says so and is no dry one. -/
theorem writeLog_cases :
    let result := writeLog fs r builtin none out s dryRun date
    result.session = s.finalize r ∧
      (hasChanged fs out (compose r s date builtin).1 = result.outcome ∧
          result.outcome ≠ .ok true ∧ result.files = fs ∨
        hasChanged fs out (compose r s date builtin).1 = .ok true ∧ result.outcome ≠ .ok false ∧
          (dryRun = false → result.outcome = .ok true →
            result.files.readBytes out = .ok (Utf8.encode (compose r s date builtin).1))) := by
  rw [writeLog_eq_carryOut]
  refine ⟨rfl, ?_⟩
  dsimp only [pendingText, loadTemplate]
  cases hasChanged fs out (compose r s date builtin).1 with
  | error e => exact Or.inl ⟨rfl, by simp [carryOut], rfl⟩
  | ok changed =>
      cases changed with
      | false => exact Or.inl ⟨rfl, by simp [carryOut], rfl⟩
      | true =>
          refine Or.inr ⟨rfl, ?_, ?_⟩
          · simp only [carryOut, if_true]
            split
            · simp
            · split <;> simp
          · intro hdry hwritten
            have hfiles := files_of_carryOut fs out dryRun (.ok (some (compose r s date builtin).1))
            rw [if_pos ⟨hwritten, hdry⟩] at hfiles
            obtain ⟨text, htext, hwrite⟩ := hfiles
            obtain rfl := Option.some.inj (Except.ok.inj htext)
            exact FileSystem.readBytes_of_writeText hwrite

theorem session_writeLog :
    (writeLog fs r builtin none out s dryRun date).session = s.finalize r :=
  writeLog_cases.1

theorem writeLog_skipped_iff :
    (writeLog fs r builtin none out s dryRun date).outcome = .ok false ↔
      hasChanged fs out (compose r s date builtin).1 = .ok false := by
  rcases writeLog_cases.2 with ⟨hchanged, -, -⟩ | ⟨hchanged, hne, -⟩
  · rw [hchanged]
  · rw [hchanged]
    exact iff_of_false hne (by simp)

/-- A log that was written can be read. -/
theorem readBytes_of_writeLog
    (h : (writeLog fs r builtin none out s false date).outcome = .ok true) :
    (writeLog fs r builtin none out s false date).files.readBytes out =
      .ok (Utf8.encode (compose r s date builtin).1) := by
  rcases writeLog_cases.2 with ⟨-, hne, -⟩ | ⟨-, -, hread⟩
  · exact absurd h hne
  · exact hread rfl h

/-- A run that cannot read the log, or finds it as it is, leaves all files alone. -/
theorem writeLog_of_unchanged {outcome : Except LogError Bool} (hne : outcome ≠ .ok true)
    (h : hasChanged fs out (compose r s date builtin).1 = outcome) :
    (writeLog fs r builtin none out s dryRun date).files = fs ∧
      (writeLog fs r builtin none out s dryRun date).outcome = outcome := by
  rcases writeLog_cases.2 with ⟨hchanged, -, hfiles⟩ | ⟨hchanged, -, -⟩
  · exact ⟨hfiles, hchanged.symm.trans h⟩
  · exact absurd (h.symm.trans hchanged) hne

end

/-! ### Logs with no date but the day -/

namespace LogType

variable {type : LogType} {s : Session}

/-- The only date in a log is its day. -/
def SoleDate (type : LogType) (text : Text) : Prop :=
  ∀ before p behind, IsDate p → text = before ++ (p ++ behind) → before = type.opening

theorem SoleDate.eraseDates_body {date : Date} (h : type.SoleDate (type.log s date)) :
    eraseDates (type.body s) = type.body s := by
  refine eraseDates_eq_self ?_
  rintro p hp ⟨u, v, hbody⟩
  have hwhole := h (type.opening ++ (date.text ++ u)) p v hp (by
    rw [log_eq, ← hbody]
    simp)
  rw [List.append_right_eq_self, List.append_eq_nil_iff] at hwhole
  obtain ⟨⟨c, more, htext, -⟩, -⟩ := date.text_chars
  rw [htext] at hwhole
  exact absurd hwhole.1 (by simp)

/-- A log without a date behind the day has no other: none is in the opening, and none reaches
over the space or the line feed around the day. -/
theorem soleDate_of_body {date : Date} (hdate : date.Plain)
    (h : ∀ p, IsDate p → ¬ p <:+: type.body s) : type.SoleDate (type.log s date) := by
  obtain ⟨-, hlast, -, -, hslash, -⟩ := type.template_split
  obtain ⟨rest, hrest⟩ := type.body_head s
  intro before p behind hp heq
  have hspace : ' ' ∉ p := fun hc => absurd (hp.isDateChar _ hc) (by decide)
  have hnewline : '\n' ∉ p := fun hc => absurd (hp.isDateChar _ hc) (by decide)
  rw [log_eq] at heq
  rcases List.append_eq_append_iff.mp heq with ⟨u, rfl, hu⟩ | ⟨u, hu, hbehind⟩
  · -- The date begins in the day or behind it.
    rcases List.append_eq_append_iff.mp hu with ⟨v, rfl, hv⟩ | ⟨v, hv, hbehind⟩
    · exact absurd ⟨v, behind, by rw [hv, List.append_assoc]⟩ (h p hp)
    · have hbegins : p <+: v := by
        refine Text.prefix_of_append_of_notMem (y := rest) hnewline ?_
        rw [← hrest, ← hbehind]
        exact List.prefix_append p behind
      have hlength := congrArg List.length hv
      rw [(Date.isDate_text hdate).length, List.length_append] at hlength
      have hle := hbegins.length_le
      rw [hp.length] at hle
      obtain rfl : u = [] := List.eq_nil_of_length_eq_zero (by omega)
      exact List.append_nil _
  · -- It begins before the day, or where the day does.
    rcases List.eq_nil_or_concat u with rfl | ⟨front, last, rfl⟩
    · rw [hu, List.append_nil]
    · rw [List.concat_eq_append] at hu hbehind
      rw [hu, ← List.append_assoc, List.getLast?_concat, Option.some.injEq] at hlast
      subst hlast
      have hbegins : p <+: front := by
        refine Text.prefix_of_append_of_notMem (y := date.text ++ type.body s) hspace ?_
        rw [← List.singleton_append, ← List.append_assoc, ← hbehind]
        exact List.prefix_append p behind
      refine absurd ?_ hslash
      rw [hu]
      exact List.mem_append_right _ (List.mem_append_left _ (hbegins.subset hp.slash_mem))

end LogType

/-- **A log on disk is left alone exactly if it can be read and the new log is the same without
dates.**  This holds for all sessions, also when an annotation was changed in nothing but a date.
If the day is the only date in either log, a log that is left alone is the same on every day. -/
theorem write_skipped_iff {type : LogType} {fs : FileSystem} {out : Path} {s : Session} {d : Date}
    (hdisk : fs.readBytes out = .ok (Utf8.encode (type.log s d))) (s' : Session) (d' : Date)
    (dryRun : Bool) :
    let outcome := (writeLog fs (Registry.forLogType type) type.template none out s' dryRun
      d').outcome
    (outcome = .ok false ↔ isBinary (Utf8.encode (type.log s d)) = false ∧
      (d = d' ∨ d.Plain ∧ d'.Plain) ∧
        ∀ e, eraseDates (type.log s e) = eraseDates (type.log s' e)) ∧
    (outcome = .ok false → type.SoleDate (type.log s d) → type.SoleDate (type.log s' d') →
      ∀ e, type.log s e = type.log s' e) := by
  intro outcome
  have hbodies : (∀ e, eraseDates (type.log s e) = eraseDates (type.log s' e)) ↔
      eraseDates (type.body s) = eraseDates (type.body s') := by
    simp only [LogType.eraseDates_log, List.append_cancel_left_eq]
    exact ⟨fun h => h d, fun h _ => h⟩
  have hskipped : outcome = .ok false ↔ isBinary (Utf8.encode (type.log s d)) = false ∧
      (d = d' ∨ d.Plain ∧ d'.Plain) ∧
        eraseDates (type.body s) = eraseDates (type.body s') := by
    rw [← type.sameExceptDates_log_iff s s' d d', writeLog_skipped_iff,
      hasChanged_of_readBytes hdisk]
    cases isBinary (Utf8.encode (type.log s d)) with
    | true => simp
    | false => simp [LogType.log]
  refine ⟨by rw [hbodies, hskipped], fun h hsole hsole' e => ?_⟩
  have hsame := (hskipped.mp h).2.2
  rw [hsole.eraseDates_body, hsole'.eraseDates_body] at hsame
  rw [type.log_eq, type.log_eq, hsame]

/-! ### Two todo lists -/

/-- A todo that was changed is written. -/
theorem write_skipped_iff_changed_todo :
    let old := LogType.todoList.log (todosIn "# Todo: one\n".toList) (yearEnd 2023)
    (writeLog (onlyFile LogType.todoList.defaultOutfile (Utf8.encode old))
      (Registry.forLogType .todoList) LogType.todoList.template none
      LogType.todoList.defaultOutfile (todosIn "# Todo: two\n".toList) false
      (yearEnd 2024)).outcome ≠ .ok false := by
  intro old hskipped
  have hbodies : '/' ∉ LogType.todoList.body (todosIn "# Todo: one\n".toList) ∧
      '/' ∉ LogType.todoList.body (todosIn "# Todo: two\n".toList) ∧
      LogType.todoList.body (todosIn "# Todo: one\n".toList) ≠
        LogType.todoList.body (todosIn "# Todo: two\n".toList) := by
    decide +kernel
  have hsole : ∀ (s : Session) (year : Fin 10000), '/' ∉ LogType.todoList.body s →
      LogType.todoList.SoleDate (LogType.todoList.log s (yearEnd year)) := by
    intro s year hs
    refine LogType.soleDate_of_body (by simp [Date.Plain, yearEnd]; omega) fun p hp hin => ?_
    exact hs (hin.subset hp.slash_mem)
  have hsame := (write_skipped_iff (readBytes_onlyFile isFileName_todoList (Utf8.encode old))
    (todosIn "# Todo: two\n".toList) (yearEnd 2024) false).2 hskipped
      (hsole _ _ hbodies.1) (hsole _ _ hbodies.2.1) (yearEnd 2023)
  rw [LogType.log_eq, LogType.log_eq, List.append_cancel_left_eq,
    List.append_cancel_left_eq] at hsame
  exact hbodies.2.2 hsame

/-- A todo that was put off is not: nothing but a date was changed. -/
theorem write_skipped_put_off_todo :
    let old := LogType.todoList.log (todosIn "# Todo: due 01/02/2023\n".toList)
    let new := LogType.todoList.log (todosIn "# Todo: due 01/03/2023\n".toList)
    let fs := onlyFile LogType.todoList.defaultOutfile (Utf8.encode (old (yearEnd 2023)))
    fs.readBytes LogType.todoList.defaultOutfile = .ok (Utf8.encode (old (yearEnd 2023))) ∧
      (writeLog fs (Registry.forLogType .todoList) LogType.todoList.template none
        LogType.todoList.defaultOutfile (todosIn "# Todo: due 01/03/2023\n".toList) false
        (yearEnd 2023)).outcome = .ok false ∧
      old (yearEnd 2023) ≠ new (yearEnd 2023) := by
  intro old new fs
  have hdisk := readBytes_onlyFile isFileName_todoList (Utf8.encode (old (yearEnd 2023)))
  have hbodies : eraseDates (LogType.todoList.body (todosIn "# Todo: due 01/02/2023\n".toList)) =
        eraseDates (LogType.todoList.body (todosIn "# Todo: due 01/03/2023\n".toList)) ∧
      isBinary (Utf8.encode (old (yearEnd 2023))) = false ∧
      old (yearEnd 2023) ≠ new (yearEnd 2023) := by
    decide +kernel
  refine ⟨hdisk, ?_, hbodies.2.2⟩
  have hsame : sameExceptDates (old (yearEnd 2023)) (new (yearEnd 2023)) = true :=
    (LogType.sameExceptDates_log_iff _ _ _ _ _).mpr ⟨Or.inl rfl, hbodies.1⟩
  rw [writeLog_skipped_iff, hasChanged_of_readBytes hdisk, hbodies.2.1,
    show (compose _ _ _ _).1 = new (yearEnd 2023) from rfl, hsame]
  rfl

end AnnotationLog
