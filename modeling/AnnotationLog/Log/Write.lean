/-
Writing: a log put on disk when it has changed.

The template is filled first.  A log that is there already is read and compared up to dates;
if it is the same nothing is written, and in a dry run nothing is written either way.  The
answer says whether the log was written or would have been.
-/
import AnnotationLog.Files.Access
import AnnotationLog.Template

namespace AnnotationLog

/-- What writing a log leaves. -/
structure WriteResult where
  files : FileSystem
  session : Session
  /-- Whether the log was written, or in a dry run would have been. -/
  outcome : Except LogError Bool

/-- The template in a file, or the built-in one. -/
def loadTemplate (fs : FileSystem) (builtin : Text) : Option Path → Except LogError Text
  | none => .ok builtin
  | some p =>
    match fs.readText p with
    | .ok text => .ok text
    | .error e => .error (.template p e)

/-- Whether a log at a path says anything else than a new text, dates aside. -/
def hasChanged (fs : FileSystem) (out : Path) (text : Text) : Except LogError Bool :=
  if fs.exists? out then
    match fs.readText out with
    | .ok old => .ok (!sameExceptDates old text)
    | .error e => .error (.write out e)
  else .ok true

/-- Puts a text on disk if it changes the log there. -/
def saveLog (fs : FileSystem) (out : Path) (dryRun : Bool) (text : Text) :
    Except LogError (Bool × FileSystem) :=
  match hasChanged fs out text with
  | .error e => .error e
  | .ok false => .ok (false, fs)
  | .ok true =>
    if dryRun then .ok (true, fs)
    else
      match fs.writeText out text with
      | .ok fs => .ok (true, fs)
      | .error e => .error (.write out e)

/-- Fills the template and writes the log. -/
def writeLog (fs : FileSystem) (r : Registry) (builtin : Text) (template : Option Path)
    (out : Path) (s : Session) (dryRun : Bool) (date : Date) : WriteResult :=
  match loadTemplate fs builtin template with
  | .error e => { files := fs, session := s, outcome := .error e }
  | .ok text =>
    let (content, session) := compose r s date text
    match saveLog fs out dryRun content with
    | .error e => { files := fs, session, outcome := .error e }
    | .ok (written, files) => { files, session, outcome := .ok written }

end AnnotationLog
