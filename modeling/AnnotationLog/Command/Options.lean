/-
Options: the command line as settings and flags.

A setting takes a value, in the next argument or joined to it (`-l x`, `-lx`, `-l=x`,
`--log-type x`, `--log-type=x`); flags take none and may share a dash.  Nothing may be given
twice, no argument may stand alone, and a path may not be empty.
-/
import AnnotationLog.Text.Basic

namespace AnnotationLog.Command

/-- An option with a value. -/
inductive Setting where
  | logType
  | outfile
  | path
  | extension
  | template
  | config
  deriving DecidableEq, Repr

/-- An option without a value. -/
inductive Flag where
  | dryRun
  | check
  | verbose
  | help
  deriving DecidableEq, Repr

/-- An option. -/
inductive Switch where
  | setting (s : Setting)
  | flag (f : Flag)
  deriving DecidableEq, Repr

/-- The long name, the letter if there is one, and the option. -/
def switches : List (Text × Option Char × Switch) :=
  [("log-type".toList, some 'l', .setting .logType),
   ("outfile".toList, some 'o', .setting .outfile),
   ("path".toList, some 'p', .setting .path),
   ("extension".toList, some 'e', .setting .extension),
   ("template".toList, some 't', .setting .template),
   ("config".toList, some 'c', .setting .config),
   ("dry-run".toList, none, .flag .dryRun),
   ("check".toList, none, .flag .check),
   ("verbose".toList, some 'v', .flag .verbose),
   ("help".toList, some 'h', .flag .help)]

/-- The option with a long name. -/
def switchNamed? (name : Text) : Option Switch :=
  switches.findSome? fun (n, _, s) => if n == name then some s else none

/-- The option with a letter. -/
def switchLetter? (letter : Char) : Option Switch :=
  switches.findSome? fun (_, l, s) => if l == some letter then some s else none

/-- Whether the value of a setting is a path. -/
def Setting.isPath : Setting → Bool
  | outfile | path | template | config => true
  | logType | extension => false

/-- What is wrong with a command line. -/
inductive UsageError where
  | unexpectedArgument (argument : Text)
  | missingValue (s : Setting)
  | unexpectedValue (f : Flag)
  | repeated (s : Switch)
  deriving DecidableEq, Repr

/-- The name of an option as it is written. -/
def Switch.text (s : Switch) : Text :=
  (switches.findSome? fun (n, _, t) => if t == s then some ('-' :: '-' :: n) else none).getD []

namespace UsageError

/-- What is said about a command line that cannot be read. -/
def message : UsageError → Text
  | unexpectedArgument a => "unexpected argument '".toList ++ a ++ "' found".toList
  | missingValue s =>
    "a value is required for '".toList ++ (Switch.setting s).text ++ "' but none was supplied".toList
  | unexpectedValue f => "unexpected value for '".toList ++ (Switch.flag f).text ++ "' found".toList
  | repeated s => "the argument '".toList ++ s.text ++ "' cannot be used multiple times".toList

end UsageError

/-- A command line as far as it has been read. -/
structure Options where
  values : List (Setting × Text) := []
  flags : List Flag := []
  deriving DecidableEq, Repr

namespace Options

/-- The value of a setting. -/
def value? (o : Options) (s : Setting) : Option Text :=
  o.values.lookup s

/-- Whether a flag was given. -/
def has (o : Options) (f : Flag) : Bool :=
  o.flags.contains f

/-- Gives a setting its value. -/
def setValue (o : Options) (s : Setting) (v : Text) : Except UsageError Options :=
  if s.isPath && v.isEmpty then .error (.missingValue s)
  else if (o.value? s).isSome then .error (.repeated (.setting s))
  else .ok { o with values := (s, v) :: o.values }

/-- Raises a flag. -/
def setFlag (o : Options) (f : Flag) : Except UsageError Options :=
  if o.has f then .error (.repeated (.flag f)) else .ok { o with flags := f :: o.flags }

/-- Gives a setting the next argument as its value; one that looks like an option is none. -/
def takeValue (o : Options) (s : Setting) : (next : Option Text) → Except UsageError Options
  | some ['-'] => o.setValue s ['-']
  | some ('-' :: _) => .error (.missingValue s)
  | some v => o.setValue s v
  | none => .error (.missingValue s)

/-- Reads an argument with two dashes, without them.  Gives whether it took the next one. -/
def readLong (o : Options) (body : Text) (next : Option Text) :
    Except UsageError (Options × Bool) :=
  let name := body.takeWhile (· != '=')
  let joined := match body.dropWhile (· != '=') with
    | _ :: v => some v
    | [] => none
  match switchNamed? name, joined with
  | none, _ => .error (.unexpectedArgument ('-' :: '-' :: body))
  | some (.setting s), some v => (o.setValue s v).map (·, false)
  | some (.setting s), none => (o.takeValue s next).map (·, true)
  | some (.flag f), none => (o.setFlag f).map (·, false)
  | some (.flag f), some _ => .error (.unexpectedValue f)

/-- Reads an argument with one dash, without it: flags, and at the end perhaps a setting with
what is left as its value.  Gives whether it took the next argument. -/
def readShort (o : Options) (letters : Text) (next : Option Text) :
    Except UsageError (Options × Bool) :=
  match letters with
  | [] => .ok (o, false)
  | letter :: more =>
    match switchLetter? letter with
    | none => .error (.unexpectedArgument ['-', letter])
    | some (.flag f) =>
      match o.setFlag f with
      | .error e => .error e
      | .ok o => if f = .help then .ok (o, false) else readShort o more next
    | some (.setting s) =>
      match more with
      | [] => (o.takeValue s next).map (·, true)
      | '=' :: v => (o.setValue s v).map (·, false)
      | v => (o.setValue s v).map (·, false)

/-- Reads one argument, given those behind it.  Gives whether it took the next one. -/
def readArg (o : Options) (arg : Text) (rest : List Text) : Except UsageError (Options × Bool) :=
  match arg, rest with
  | ['-', '-'], [] => .ok (o, false)
  | ['-', '-'], a :: _ => .error (.unexpectedArgument a)
  | '-' :: '-' :: body, rest => o.readLong body rest.head?
  | '-' :: c :: letters, rest => o.readShort (c :: letters) rest.head?
  | arg, _ => .error (.unexpectedArgument arg)

/-- Reads the arguments from left to right; behind a call for help nothing is read. -/
def readArgs (o : Options) : List Text → Except UsageError Options
  | [] => .ok o
  | arg :: rest =>
    match o.readArg arg rest with
    | .error e => .error e
    | .ok (o, took) =>
      if o.has .help then .ok o else readArgs o (if took then rest.drop 1 else rest)
termination_by args => args.length
decreasing_by grind

/-- The options of a command line. -/
def parse (args : List Text) : Except UsageError Options :=
  readArgs {} args

end Options

end AnnotationLog.Command
