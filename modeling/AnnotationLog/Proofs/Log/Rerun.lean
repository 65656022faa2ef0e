/-
Writing a log twice.

What a first run writes is what a second run of the same log reads.  Without new findings
the two logs differ in the day alone, so the second run changes nothing, if it gets as far
as comparing: a log with a zero byte near its front counts as binary and is refused.

A source is held to the same rule, but over its own front.  A zero character far down in
a source is read, and the log may carry it further up.  Where no finding holds the zero
character the log has none, and the second run finds it as it is.
-/
import AnnotationLog.Proofs.Annotation.OnePass
import AnnotationLog.Proofs.Log.Skip

namespace AnnotationLog

/-! ### Two runs -/

namespace Log

/-- A run that wrote a log left it on disk. -/
theorem readBytes_of_write {log written : Log} {fs files : FileSystem} {d : Date}
    (h : log.write fs none false d = (written, files, .ok true)) :
    files.readBytes log.outfile =
        .ok (Utf8.encode (compose log.registry log.session d log.type.template).1) ∧
      written = { log with session := log.session.finalize log.registry } := by
  simp only [write, Prod.mk.injEq] at h
  obtain ⟨rfl, rfl, hwritten⟩ := h
  exact ⟨readBytes_of_writeLog hwritten, by rw [session_writeLog]⟩

/-- A run without new findings leaves the log on disk, whether it can read it or not. -/
theorem write_of_readBytes {log : Log} {files : FileSystem} {s : Session} {d e : Date}
    (hbuiltin : log.registry = Registry.forLogType log.type) (hd : d.Plain) (he : e.Plain)
    (hsession : ∀ i, log.session.matched i = s.matched i)
    (hdisk : files.readBytes log.outfile = .ok (Utf8.encode (log.type.log s d))) :
    (log.write files none false e).2 =
      (files, if isBinary (Utf8.encode (log.type.log s d)) then .error (.write log.outfile .binary)
        else .ok false) := by
  have hsame : sameExceptDates (log.type.log s d) (log.type.log log.session e) = true := by
    rw [log.type.log_congr hsession, log.type.sameExceptDates_log_iff]
    exact ⟨Or.inr ⟨hd, he⟩, rfl⟩
  have hchanged := hasChanged_of_readBytes hdisk (log.type.log log.session e)
  rw [hsame, Bool.not_true, LogType.log, ← hbuiltin] at hchanged
  obtain ⟨hfiles, houtcome⟩ := writeLog_of_unchanged (by split <;> simp) hchanged
  exact Prod.ext hfiles houtcome

end Log

/-- **A second run leaves what the first one wrote.**  For every log with its built-in kinds,
whatever was found in whatever files, and any two plain years: the first run puts the log on disk,
and the second changes no file.  It reports no change, unless the log has a zero byte among the
bytes that are looked at, in which case it refuses the log as binary; that never happens when the
findings have no zero character. -/
theorem write_twice {log written : Log} {fs files : FileSystem} {d e : Date}
    (hbuiltin : log.registry = Registry.forLogType log.type) (hd : d.Plain) (he : e.Plain)
    (hfirst : log.write fs none false d = (written, files, .ok true)) :
    let bytes := Utf8.encode (log.type.log log.session d)
    files.readBytes log.outfile = .ok bytes ∧
      (written.write files none false e).2 =
        (files, if isBinary bytes then .error (.write log.outfile .binary) else .ok false) ∧
      ((∀ i, ∀ f ∈ log.session.matched i, f.NulFree) → isBinary bytes = false) := by
  intro bytes
  obtain ⟨hdisk, rfl⟩ := Log.readBytes_of_write hfirst
  rw [hbuiltin] at hdisk
  refine ⟨hdisk, ?_, fun hnul => ?_⟩
  · exact Log.write_of_readBytes hbuiltin hd he (log.session.matched_finalize _) hdisk
  · exact Utf8.isBinary_of_notMem (Utf8.zero_notMem_encode (nul_notMem_log log.type hnul d))

/-! ### A directory with one source -/

theorem Log.write_of_absent {log : Log} {fs : FileSystem} {children : List (Text × Entry)}
    (hname : IsFileName log.outfile) (hcwd : fs.root.find? fs.cwd = some (.dir children))
    (habsent : children.lookup log.outfile = none) (date : Date) :
    ∃ written files, log.write fs none false date = (written, files, .ok true) := by
  simp only [Log.write, writeLog, loadTemplate, saveLog, hasChanged,
    fs.exists?_of_absent hname hcwd habsent, fs.writeText_of_absent hname hcwd habsent]
  exact ⟨_, _, rfl⟩

/-- A new todo list with what is found below the current directory. -/
def findTodos (fs : FileSystem) : Except LogError (Log × SearchStats) := do
  let log ← Log.create fs LogType.todoList.name LogType.todoList.defaultOutfile
  log.addBuiltins.1.find fs ['.'] "py".toList

theorem findTodos_onlyFile {source : Text}
    (hsource : sourceText? defaultMaxBytes (Utf8.encode source) = some source) :
    findTodos (onlyFile "a.py".toList (Utf8.encode source)) = .ok (todoLog (todosIn source),
      { scanned := 1, matched := (BuiltinKind.todo.kind.find source).length }) := by
  have hbuiltins : ({ type := .todoList, outfile := LogType.todoList.defaultOutfile } :
      Log).addBuiltins.1 = todoLog (Session.forRegistry (Registry.forLogType .todoList)) := rfl
  simp only [findTodos, create_todoList, bind, Except.bind, hbuiltins, Log.find, todoLog,
    Option.getD_none, search_onlyFile hsource]
  rfl

/-- A run in a directory with one source writes the log of the todos in it. -/
theorem write_todosIn (source : Text) (d : Date) :
    ∃ written files, (todoLog (todosIn source)).write
      (onlyFile "a.py".toList (Utf8.encode source)) none false d = (written, files, .ok true) :=
  Log.write_of_absent isFileName_todoList
    (Entry.find?_nil (onlyFile "a.py".toList (Utf8.encode source)).root) rfl d

theorem nulFree_todosIn {source : Text} (h : '\x00' ∉ source) (i : Nat) :
    ∀ f ∈ (todosIn source).matched i, f.NulFree := by
  intro f hf
  rw [todosIn, Session.matched_scan_at] at hf
  cases i with
  | zero =>
      obtain ⟨fields, hfields, rfl⟩ := List.mem_map.mp hf
      have hfrom : fields.From (· ∈ source) := find_from hfields
      exact ⟨by simp, hfrom.mono fun c hc hzero => h (hzero ▸ hc)⟩
  | succ i => exact absurd hf List.not_mem_nil

/-- The first and the last plain year. -/
theorem write_twice_todo :
    let fs := onlyFile "a.py".toList (Utf8.encode "# Todo: a\n".toList)
    ∃ log stats written files, findTodos fs = .ok (log, stats) ∧
      log.write fs none false (yearEnd 0) = (written, files, .ok true) ∧
      (written.write files none false (yearEnd 9999)).2 = (files, .ok false) := by
  intro fs
  have hsource : '\x00' ∉ "# Todo: a\n".toList := by decide
  have hfind := findTodos_onlyFile (sourceText?_encode hsource (by decide))
  obtain ⟨written, files, hwrite⟩ := write_todosIn "# Todo: a\n".toList (yearEnd 0)
  obtain ⟨-, htwice, hbinary⟩ := write_twice rfl (d := yearEnd 0) (e := yearEnd 9999)
    (by decide) (by decide) hwrite
  rw [hbinary (nulFree_todosIn hsource)] at htwice
  exact ⟨_, _, written, files, hfind, hwrite, htwice⟩

/-- The second run refuses a log that has a zero byte among those that are looked at. -/
theorem findTodos_write_refused {source short : Text} {d e : Date} (hd : d.Plain) (he : e.Plain)
    (hsource : sourceText? defaultMaxBytes (Utf8.encode source) = some source)
    (hfind : BuiltinKind.todo.kind.find source = BuiltinKind.todo.kind.find short)
    (hbinary : isBinary (Utf8.encode (LogType.todoList.log (todosIn short) d)) = true) :
    ∃ log stats written files,
      findTodos (onlyFile "a.py".toList (Utf8.encode source)) = .ok (log, stats) ∧
      log.write (onlyFile "a.py".toList (Utf8.encode source)) none false d =
        (written, files, .ok true) ∧
      (written.write files none false e).2 =
        (files, .error (.write LogType.todoList.defaultOutfile .binary)) := by
  obtain ⟨written, files, hwrite⟩ := write_todosIn source d
  have hshort : LogType.todoList.log (todosIn source) d =
      LogType.todoList.log (todosIn short) d := by
    refine LogType.log_congr _ (fun i => ?_) _
    rw [todosIn, todosIn, Session.matched_scan_at, Session.matched_scan_at]
    cases i with
    | zero => exact congrArg (fun found => [] ++ List.map _ found) hfind
    | succ i => rfl
  obtain ⟨hdisk, rfl⟩ := Log.readBytes_of_write hwrite
  refine ⟨_, _, _, files, findTodos_onlyFile hsource, hwrite, ?_⟩
  have htwice : (Log.write (todoLog ((todosIn source).finalize (Registry.forLogType .todoList)))
      files none false e).2 =
        (files, if isBinary (Utf8.encode (LogType.todoList.log (todosIn source) d)) then
          .error (.write LogType.todoList.defaultOutfile .binary) else .ok false) :=
    Log.write_of_readBytes rfl hd he (Session.matched_finalize _ _) hdisk
  rw [hshort, if_pos hbinary] at htwice
  exact htwice

/-! ### A zero character far down in a source -/

/-- A line as long as what is looked at to tell text from binary data, and below it a todo with a
zero character. -/
def lateZero : Text :=
  List.replicate probeLength 'x' ++ '\n' :: "# Todo: a\x00b\n".toList

theorem sourceText?_lateZero :
    sourceText? defaultMaxBytes (Utf8.encode lateZero) = some lateZero := by
  have hlong : ∀ n, (Utf8.encode (List.replicate n 'x')).length = n := by
    intro n
    simp [Utf8.encode, Utf8.encodeChar]
  have hencode : Utf8.encode lateZero = Utf8.encode (List.replicate probeLength 'x') ++
      Utf8.encode ('\n' :: "# Todo: a\x00b\n".toList) :=
    List.flatMap_append
  have hbinary : isBinary (Utf8.encode lateZero) = false := by
    rw [isBinary, hencode, List.take_left' (hlong probeLength), List.contains_eq_mem,
      decide_eq_false_iff_not]
    exact Utf8.zero_notMem_encode (by simp)
  have hsize : (Utf8.encode lateZero).length ≤ defaultMaxBytes := by
    rw [hencode, List.length_append, hlong]
    decide
  rw [sourceText?, if_pos hsize, Utf8.decodeText_encode_eq, hbinary]
  rfl

theorem lines_lateZero : ∃ more,
    Text.lines lateZero = ('x' :: more) :: Text.lines "# Todo: a\x00b\n".toList := by
  have hline : ∀ n, Text.IsLine (List.replicate n 'x') := by
    intro n
    refine ⟨by simp, ?_⟩
    rw [List.getLast?_replicate]
    split <;> decide
  exact ⟨_, Text.lines_append_newline (hline probeLength) _⟩

/-- The long line is no annotation and hides none. -/
theorem find_lateZero : BuiltinKind.todo.kind.find lateZero =
    BuiltinKind.todo.kind.find "# Todo: a\x00b\n".toList := by
  obtain ⟨more, hlines⟩ := lines_lateZero
  have hskip : ∀ g ∈ BuiltinKind.todo.kind.grammars, g.scanFrom 0 (Text.lines lateZero) =
      g.scanFrom 1 (Text.lines "# Todo: a\x00b\n".toList) := by
    intro g hg
    obtain ⟨dialect, -, rfl⟩ := List.mem_map.mp hg
    rw [hlines]
    refine Grammar.scanFrom_of_none ?_
    cases dialect <;> rfl
  have hcandidates : candidates BuiltinKind.todo.kind.grammars lateZero = _ :=
    candidatesFrom_congr hskip
  rw [Kind.find, matchGrammars, mergedCandidates, hcandidates]
  decide +kernel

/-- **A log may carry a zero character further up than its source does.**  The first run writes
it, and the second refuses what the first one wrote. -/
theorem write_twice_late_zero :
    let fs := onlyFile "a.py".toList (Utf8.encode lateZero)
    ∃ log stats written files, findTodos fs = .ok (log, stats) ∧
      log.write fs none false (yearEnd 2024) = (written, files, .ok true) ∧
      (written.write files none false (yearEnd 2025)).2 =
        (files, .error (.write LogType.todoList.defaultOutfile .binary)) := by
  intro fs
  exact findTodos_write_refused (by decide) (by decide) sourceText?_lateZero find_lateZero
    (by decide +kernel)

end AnnotationLog
