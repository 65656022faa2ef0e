/-
Errors: why a log could not be set up, searched for or written.

Every constructor is a cause and keeps what the cause is about; `message` is the one place
where they are worded, and `causes` lists the messages of the errors behind an error.

There is no error for keywords too long to be compiled, because the limit of size that would
cause it is not modelled.
-/
import AnnotationLog.Config.Fault
import AnnotationLog.Files.Path

namespace AnnotationLog

/-- What a kind lacks. -/
inductive KindFault where
  | noKeyword
  | noName
  | noMarker
  | noGrammar
  deriving DecidableEq, Repr

namespace KindFault

/-- The wording of a fault. -/
def message : KindFault → Text
  | noKeyword => "grammar needs at least one keyword".toList
  | noName => "name is empty".toList
  | noMarker => "template marker is empty".toList
  | noGrammar => "no grammars".toList

end KindFault

/-- An error of the library. -/
inductive LogError where
  | unknownLogType (name : Text) (known : List Text)
  | missingOutputDir (dir : Path)
  | noKinds
  | invalidKind (name : Text) (fault : KindFault)
  | duplicateMarker (marker : Text)
  | searchRoot (path : Path) (cause : OsError)
  | template (path : Path) (cause : FileError)
  | write (path : Path) (cause : FileError)
  | config (path : Path) (fault : ConfigFault)
  deriving DecidableEq, Repr

namespace LogError

/-- The message of an error. -/
def message : LogError → Text
  | unknownLogType name known =>
    name ++ " is not a valid log type. Choose from ".toList ++ Text.join [',', ' '] known ++ ['.']
  | missingOutputDir dir => "Output directory does not exist: ".toList ++ dir
  | noKinds => "No log items have been added to the log".toList
  | invalidKind name fault =>
    "Invalid log item '".toList ++ name ++ "': ".toList ++ fault.message
  | duplicateMarker marker =>
    "Template marker ".toList ++ marker ++ " is already registered".toList
  | searchRoot path cause =>
    "Cannot resolve search path ".toList ++ path ++ ": ".toList ++ cause.message
  | template path cause => "Cannot read template ".toList ++ path ++ ": ".toList ++ cause.message
  | write path cause => "Cannot write log ".toList ++ path ++ ": ".toList ++ cause.message
  | config path fault => "Invalid configuration ".toList ++ path ++ ": ".toList ++ fault.message

/-- The messages of the errors behind an error, nearest first. -/
def causes : LogError → List Text
  | searchRoot _ cause => [cause.message]
  | template _ cause => cause.message :: cause.causes
  | write _ cause => cause.message :: cause.causes
  | _ => []

end LogError

end AnnotationLog
