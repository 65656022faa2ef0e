/-
The todo list of a directory with one source.

This is the smallest directory that a log can be made of, and the one on which the
statements about writing, rerunning and keeping a log are tried.  A search of it scans
the source and nothing else, whatever the source holds and whatever was found before.
-/
import AnnotationLog.Log.Basic
import AnnotationLog.Proofs.Log.Found

namespace AnnotationLog

/-! ### One file -/

/-- A directory that holds one file. -/
def onlyFile (name : Text) (bytes : Bytes) : FileSystem where
  root := .dir [(name, .file bytes)]
  cwd := []

theorem readBytes_onlyFile {name : Text} (hname : IsFileName name) (bytes : Bytes) :
    (onlyFile name bytes).readBytes name = .ok bytes := by
  have hstat : (onlyFile name bytes).stat name = .ok (.file bytes) :=
    FileSystem.stat_of_file hname (Entry.find?_nil _) (by simp)
  rw [FileSystem.readBytes, hstat]

theorem walk_onlyFile (bytes : Bytes) :
    walk [] (onlyFile "a.py".toList bytes).root (extensionEnding "py".toList) =
      [(["a.py".toList], bytes)] := by
  have hends : Text.endsWith (extensionEnding ['p', 'y']) ['a', '.', 'p', 'y'] = true := by
    decide
  simp [walk, onlyFile, Entry.files, Entry.filesIn, hends]

/-! ### One source -/

theorem isFileName_todoList : IsFileName LogType.todoList.defaultOutfile :=
  ⟨⟨by decide, by decide, by decide, by decide, by decide⟩, by decide⟩

/-- A todo list with its kind and some findings. -/
def todoLog (session : Session) : Log where
  type := .todoList
  outfile := LogType.todoList.defaultOutfile
  registry := Registry.forLogType .todoList
  session := session

/-- What is found in a file. -/
def todosIn (source : Text) : Session :=
  (Session.forRegistry (Registry.forLogType .todoList)).scan (Registry.forLogType .todoList)
    "a.py".toList source

theorem create_todoList (fs : FileSystem) :
    Log.create fs LogType.todoList.name LogType.todoList.defaultOutfile =
      .ok { type := .todoList, outfile := LogType.todoList.defaultOutfile } := by
  have htype : LogType.ofName LogType.todoList.name = .ok .todoList := by rfl
  rw [Log.create, htype, FileSystem.namedParent?_name isFileName_todoList.toIsName]
  rfl

/-- A source that can be read is scanned. -/
theorem search_onlyFile {source : Text} {limit : Nat}
    (hsource : sourceText? limit (Utf8.encode source) = some source) (s : Session) :
    let r := Registry.forLogType .todoList
    search (onlyFile "a.py".toList (Utf8.encode source)) r limit ['.'] "py".toList s =
      .ok ((s.sync r).scan r "a.py".toList source,
        { scanned := 1, matched := (BuiltinKind.todo.kind.find source).length }) := by
  intro r
  have hroot : (onlyFile "a.py".toList (Utf8.encode source)).canonical ['.'] = .ok [] :=
    FileSystem.canonical_dot (Entry.find?_nil _)
  obtain ⟨found, hfound, hsearched⟩ :=
    search_eq (r := r) rfl hroot (Entry.find?_nil _) limit "py".toList s
  have hread : readable [] limit [(["a.py".toList], Utf8.encode source)] =
      [("a.py".toList, source)] := by
    simp [readable, hsource, searchPath, Text.join]
  rw [walk_onlyFile] at hsearched
  dsimp only at hsearched
  rw [hread] at hsearched
  have hcount : (r.kinds.flatMap fun k => k.find source) = BuiltinKind.todo.kind.find source :=
    List.append_nil _
  have hscan : Searched r [("a.py".toList, source)] 0 (s.sync r, {})
      ((s.sync r).scan r "a.py".toList source,
        { scanned := 1, matched := (BuiltinKind.todo.kind.find source).length }) := by
    refine ⟨rfl, rfl, rfl, ?_⟩
    rw [Session.total_scan, hcount]
    rfl
  rw [hfound, hsearched.unique hscan]

/-- The last day of a year. -/
def yearEnd (year : Fin 10000) : Date where
  year := year.val
  month := 12
  day := 31
  year_ge := by omega
  year_le := by omega
  month_ge := by decide
  month_le := by decide
  day_ge := by decide
  day_le := by simp [daysInMonth]

end AnnotationLog
