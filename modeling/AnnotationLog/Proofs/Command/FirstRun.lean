/-
The first run in a directory.

In a directory without configuration and without a log, a run without settings writes
the log of what is there and touches nothing else.  Such a directory is where the
statements about checking, writing and foretelling begin.
-/
import AnnotationLog.Proofs.Command.Default
import AnnotationLog.Proofs.Text.Utf8

namespace AnnotationLog.Command

variable {fs : FileSystem} {children : List (Text × Entry)}

/-! ### A directory without a log -/

/-- A current directory without configuration and without a log, in which no file has a zero
byte.  As on any disk, the names in a directory are proper and different. -/
structure Fresh (fs : FileSystem) (children : List (Text × Entry)) : Prop where
  named : fs.root.WellNamed
  here : fs.root.find? fs.cwd = some (.dir children)
  noConfig : children.lookup configFileName = none
  noLog : children.lookup defaultLog = none
  noZero : ∀ f ∈ (Entry.dir children).files, (0 : UInt8) ∉ f.2

/-- The files once a log is written into the current directory. -/
def withLog (fs : FileSystem) (log : Text) : FileSystem :=
  { fs with root := fs.root.put (fs.cwd ++ [defaultLog]) (.file (Utf8.encode log)) }

namespace Fresh

variable (h : Fresh fs children)

include h

theorem names : ∀ n ∈ fs.cwd, IsName n :=
  (h.named.find? h.here).1

theorem find?_withLog (log : Text) : (withLog fs log).root.find? (withLog fs log).cwd =
    some (.dir (Entry.setChild defaultLog (.file (Utf8.encode log)) children)) :=
  Entry.find?_put h.here defaultLog _

theorem withLog_ne (log : Text) : withLog fs log ≠ fs := by
  intro hsame
  have hhere := h.find?_withLog log
  rw [hsame, h.here] at hhere
  have hlog := h.noLog
  rw [Entry.dir.inj (Option.some.inj hhere), Entry.lookup_setChild_self] at hlog
  simp at hlog

theorem run_nil (today : Date) :
    run fs today [] =
      (.ended (.documented defaultLog),
        withLog fs (currentLog fs.cwd (.dir children) today)) := by
  have hsave : saveLog fs defaultLog false (currentLog fs.cwd (.dir children) today) =
      .ok (true, withLog fs (currentLog fs.cwd (.dir children) today)) := by
    rw [saveLog, hasChanged, fs.exists?_of_absent isFileName_defaultLog h.here h.noLog]
    simp only [Bool.false_eq_true, if_false,
      fs.writeText_of_absent isFileName_defaultLog h.here h.noLog]
    rfl
  rw [run, parse_nil]
  exact runOptions_default (o := {}) h.names h.here h.noConfig rfl hsave

end Fresh

/-! ### A directory with one source -/

/-- A directory with one source. -/
def soleSource (text : Text) : FileSystem where
  root := .dir [("work".toList, .dir [("a.py".toList, .file (Utf8.encode text))])]
  cwd := ["work".toList]

/-- The first day of a month. -/
def firstOf (month : Fin 12) : Date where
  year := 2024
  month := month + 1
  day := 1
  year_ge := by decide
  year_le := by decide
  month_ge := by omega
  month_le := by omega
  day_ge := by decide
  day_le := by revert month; decide

theorem fresh_soleSource {text : Text} (hnul : '\x00' ∉ text) :
    Fresh (soleSource text) [("a.py".toList, .file (Utf8.encode text))] := by
  have hwork : IsName "work".toList := by
    refine ⟨?_, ?_, ?_, ?_, ?_⟩ <;> decide
  have hsource : IsName "a.py".toList := by
    refine ⟨?_, ?_, ?_, ?_, ?_⟩ <;> decide
  constructor
  case named =>
    refine .dir (by simpa using hwork) (by simp) ?_
    simp only [List.mem_singleton, forall_eq]
    exact .dir (by simpa using hsource) (by simp) (by simpa using Entry.WellNamed.file _)
  case here => rfl
  case noConfig => rfl
  case noLog => rfl
  case noZero =>
    have hfiles : (Entry.dir [("a.py".toList, .file (Utf8.encode text))]).files =
        [(["a.py".toList], Utf8.encode text)] := by
      simp [Entry.files, Entry.filesIn]
    rw [hfiles]
    simpa using Utf8.zero_notMem_encode hnul

end AnnotationLog.Command
