/-
Run: the command from its arguments to its last message.

Flags win over the configuration and the configuration over the defaults.  A log type that is
named on the command line is checked before any file is touched.  A run reads the files it was
given and leaves them as they are, but for the log it may write.
-/
import AnnotationLog.Command.Options
import AnnotationLog.Config.Load
import AnnotationLog.Log.Basic

namespace AnnotationLog.Command

/-- What a run works with. -/
structure Settings where
  type : LogType
  outfile : Path
  path : Path
  extension : Text
  template : Option Path
  maxBytes : Option Nat
  dryRun : Bool
  deriving DecidableEq, Repr

/-- How a run ends when nothing goes wrong. -/
inductive Ending where
  | unchanged (type : LogType)
  | outOfDate (outfile : Path)
  | wouldUpdate (outfile : Path)
  | documented (outfile : Path)
  deriving DecidableEq, Repr

namespace Ending

/-- The last message of a run. -/
def message : Ending → Text
  | unchanged type => type.nudge
  | outOfDate outfile => outfile ++ " is out of date.".toList
  | wouldUpdate outfile => "Dry run: ".toList ++ outfile ++ " would be updated.".toList
  | documented outfile => "Log items documented in ".toList ++ outfile ++ ['.']

/-- The exit status of a run. -/
def status : Ending → Nat
  | outOfDate _ => 1
  | _ => 0

end Ending

/-- An error together with what the run was doing, where that is worth saying. -/
structure Failure where
  context : Option Text := none
  error : LogError
  deriving DecidableEq, Repr

namespace Failure

/-- The chain of messages, the outermost first. -/
def messages (f : Failure) : List Text :=
  f.context.toList ++ f.error.message :: f.error.causes

/-- A cause under the heading of causes: its number if there are several, and its further lines
indented. -/
def causeText (number : Option Nat) (cause : Text) : Text :=
  let lead := match number with
    | some n =>
      let digits := Text.ofNat n
      List.replicate (5 - digits.length) ' ' ++ digits ++ [':', ' ']
    | none => List.replicate 4 ' '
  let hang := List.replicate (if number.isSome then 7 else 4) ' '
  lead ++ Text.replaceAll ['\n'] ('\n' :: hang) cause

/-- The report of a failure with its causes. -/
def report (f : Failure) : Text :=
  match f.messages with
  | [] => []
  | first :: causes =>
    let under := match causes with
      | [] => []
      | [cause] => ["\n\nCaused by:".toList, causeText none cause]
      | causes =>
        "\n\nCaused by:".toList :: causes.zipIdx.map fun (cause, n) => causeText (some n) cause
    "Error: ".toList ++ first ++ Text.joinLines under

end Failure

/-- How a run ends. -/
inductive Outcome where
  | misused (e : UsageError)
  | helped
  | failed (f : Failure)
  | ended (e : Ending)
  deriving DecidableEq, Repr

namespace Outcome

/-- The exit status of the command. -/
def status : Outcome → Nat
  | misused _ => 2
  | helped => 0
  | failed _ => 1
  | ended e => e.status

end Outcome

/-- The text that explains the options. -/
def helpText : Text :=
  Text.unlines (["Generate an assumptions and caveats log (or todo / technical debt list) from code comments.",
    "",
    "Usage: assumptions [OPTIONS]",
    "",
    "Options:",
    "  -l, --log-type <NAME>     Log type: assumptions_caveats_log, todo_list or technical_debt_log",
    "  -o, --outfile <FILE>      Output Markdown file (default depends on the log type, e.g. `assumptions_caveats_log.md`)",
    "  -p, --path <DIR>          Directory to search, relative to the current directory (default: `.`)",
    "  -e, --extension <SUFFIX>  Only search files ending in this suffix (e.g. `.py`)",
    "  -t, --template <FILE>     Template file with `{ assumptions }`-style markers",
    "  -c, --config <FILE>       Config file (default: `.assumptions.yaml` if present)",
    "      --dry-run             Work out whether the log would change without writing it",
    "      --check               Like --dry-run, but exit with status 1 when the log is out of date",
    "  -v, --verbose             Debug logging on stderr",
    "  -h, --help                Print help",
    "",
    "Your assumptions and caveats documented."].map String.toList)

/-- The path of the current directory. -/
def cwdPath (fs : FileSystem) : Path :=
  '/' :: Text.join ['/'] fs.cwd

/-- The configuration of a run: the named file, or the one of the current directory. -/
def loadConfig (fs : FileSystem) (o : Options) : Except LogError Config :=
  match o.value? .config with
  | some p => Config.load fs p
  | none => Config.loadDefault fs (cwdPath fs)

/-- The settings of a run: flags first, then the configuration, then the defaults. -/
def settings (o : Options) (config : Config) : Except LogError Settings :=
  let typeName := ((o.value? .logType).or config.logType).getD LogType.assumptionsCaveats.name
  match LogType.ofName typeName with
  | .error e => .error e
  | .ok type => .ok {
      type
      outfile := ((o.value? .outfile).or config.outfile).getD type.defaultOutfile
      path := ((o.value? .path).or config.path).getD ['.']
      extension := ((o.value? .extension).or config.extension).getD []
      template := (o.value? .template).or config.template
      maxBytes := config.maxFileBytes
      dryRun := o.has .dryRun || o.has .check }

/-- Adds the kinds that a configuration describes. -/
def addCustomKinds (log : Log) : List CustomKind → Except Failure Log
  | [] => .ok log
  | c :: cs =>
    match c.build with
    | .error error =>
      .error { context := some ("invalid custom kind '".toList ++ c.name ++ [Text.apostrophe]), error }
    | .ok k =>
      match log.addKind k with
      | .error error => .error { error }
      | .ok log => addCustomKinds log cs

/-- The log of a run before it searches: created, with all kinds and the size limit. -/
def prepare (fs : FileSystem) (s : Settings) (kinds : List CustomKind) : Except Failure Log :=
  match Log.create fs s.type.name s.outfile with
  | .error error => .error { error }
  | .ok log =>
    match log.addBuiltins with
    | (_, .error error) => .error { error }
    | (log, .ok ()) =>
      match addCustomKinds log kinds with
      | .error f => .error f
      | .ok log =>
        .ok (match s.maxBytes with
          | some limit => log.setMaxBytes limit
          | none => log)

/-- The log of a run after it has searched. -/
def gather (fs : FileSystem) (s : Settings) (kinds : List CustomKind) : Except Failure Log :=
  match prepare fs s kinds with
  | .error f => .error f
  | .ok log =>
    match log.find fs s.path s.extension with
    | .error error => .error { context := some ("search failed under ".toList ++ s.path), error }
    | .ok (log, _) => .ok log

/-- How a run ends that has come to writing its log. -/
def ending (o : Options) (s : Settings) (written : Bool) : Ending :=
  if !written then .unchanged s.type
  else if o.has .check then .outOfDate s.outfile
  else if o.has .dryRun then .wouldUpdate s.outfile
  else .documented s.outfile

/-- The configuration and the settings of a run.  A log type on the command line is checked
first. -/
def configure (fs : FileSystem) (o : Options) : Except LogError (Config × Settings) := do
  match o.value? .logType with
  | some name => discard (LogType.ofName name)
  | none => pure ()
  let config ← loadConfig fs o
  let s ← settings o config
  pure (config, s)

/-- Runs the command with options. -/
def runOptions (fs : FileSystem) (today : Date) (o : Options) : Outcome × FileSystem :=
  match configure fs o with
  | .error error => (.failed { error }, fs)
  | .ok (config, s) =>
    match gather fs s config.customKinds with
    | .error f => (.failed f, fs)
    | .ok log =>
      match log.write fs s.template s.dryRun today with
      | (_, fs, .error error) => (.failed { error }, fs)
      | (_, fs, .ok written) => (.ended (ending o s written), fs)

/-- Runs the command on a file system, on a day, with its arguments. -/
def run (fs : FileSystem) (today : Date) (args : List Text) : Outcome × FileSystem :=
  match Options.parse args with
  | .error e => (.misused e, fs)
  | .ok o => if o.has .help then (.helped, fs) else runOptions fs today o

end AnnotationLog.Command
