/-
Log: a log type with its kinds, what was found for them, and the file it goes to.

A log starts without kinds.  Kinds are added one by one, searches add up, and writing leaves
the log ready for more.
-/
import AnnotationLog.Log.Search
import AnnotationLog.Log.Write

namespace AnnotationLog

/-- A log in the making. -/
structure Log where
  type : LogType
  outfile : Path
  registry : Registry := {}
  session : Session := {}
  /-- The size beyond which source files are skipped, if one was set. -/
  maxBytes : Option Nat := none

namespace Log

/-- A log of a type that goes to a file in an existing directory. -/
def create (fs : FileSystem) (typeName : Text) (outfile : Path) : Except LogError Log :=
  match LogType.ofName typeName with
  | .error e => .error e
  | .ok type =>
    match (Path.namedParent? outfile).filter (!fs.isDir ·) with
    | some dir => .error (.missingOutputDir dir)
    | none => .ok { type, outfile }

/-- Adds a kind. -/
def addKind (log : Log) (k : Kind) : Except LogError Log :=
  match log.registry.register k with
  | .ok registry => .ok { log with registry, session := log.session.sync registry }
  | .error e => .error e

/-- Adds kinds one after the other.  The log reached is kept also when one is refused. -/
def addKinds (log : Log) : List Kind → Log × Except LogError Unit
  | [] => (log, .ok ())
  | k :: ks =>
    match log.addKind k with
    | .ok log => addKinds log ks
    | .error e => (log, .error e)

/-- Adds the built-in kinds of the log's type. -/
def addBuiltins (log : Log) : Log × Except LogError Unit :=
  log.addKinds (log.type.kinds.map BuiltinKind.kind)

/-- Sets the size beyond which source files are skipped. -/
def setMaxBytes (log : Log) (limit : Nat) : Log :=
  { log with maxBytes := some limit }

/-- Searches a path for files with an extension. -/
def find (log : Log) (fs : FileSystem) (p : Path) (extension : Text) :
    Except LogError (Log × SearchStats) :=
  match search fs log.registry (log.maxBytes.getD defaultMaxBytes) p extension log.session with
  | .ok (session, stats) => .ok ({ log with session }, stats)
  | .error e => .error e

/-- Writes the log with a template or the built-in one. -/
def write (log : Log) (fs : FileSystem) (template : Option Path) (dryRun : Bool) (date : Date) :
    Log × FileSystem × Except LogError Bool :=
  let result := writeLog fs log.registry log.type.template template log.outfile log.session
    dryRun date
  ({ log with session := result.session }, result.files, result.outcome)

end Log

end AnnotationLog
