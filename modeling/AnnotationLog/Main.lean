/-
Main: the command as a program.

A run is a function of the files it sees.  This module loads those files into a file system
value, hands it to the run, puts the log it wrote back on disk and prints the last message.
Only what the run can look at is loaded: the configuration, and then the search root with
everything below it, the template and the log.
-/
import AnnotationLog.Command.Run
import Std.Time.Zoned

namespace AnnotationLog.Main

/-- A location as an absolute path. -/
def pathOf (loc : Location) : String :=
  String.ofList ('/' :: Text.join ['/'] loc)

/-- The names of an absolute path without links. -/
def locationOf (path : String) : Location :=
  (Path.pieces path.toList).filter (!Path.isStay ·)

/-- What stands at a location. -/
def typeAt? (loc : Location) : IO (Option IO.FS.FileType) := do
  let path := (← IO.currentDir) / pathOf loc
  try return some (← path.symlinkMetadata).type
  catch _ => return none

/-- The canonical path of what a link leads to, or a name that no file has. -/
def linkTarget (loc : Location) : IO Text := do
  try return (← IO.FS.realPath (pathOf loc)).toString.toList
  catch _ => return ['\x00']

/-- The content of a file.  One that cannot be read gets content that is no text, so that
searches skip it. -/
def contentOf (loc : Location) : IO Bytes := do
  try return (← IO.FS.readBinFile (pathOf loc)).toList
  catch _ => return [0]

/-- Everything at and below a location. -/
partial def loadTree (loc : Location) : IO Entry := do
  match ← typeAt? loc with
  | some .dir =>
    let path := (← IO.currentDir) / pathOf loc
    let mut children := []
    for e in ← path.readDir do
      let name := e.fileName.toList
      children := (name, ← loadTree (loc ++ [name])) :: children
    return .dir children
  | some .file => return .file (← contentOf loc)
  | _ => return .link (← linkTarget loc)

/-- Loads what the pieces of a path lead to from a location, and with `deep` everything below
it. -/
partial def loadPieces (fs : FileSystem) (deep : Bool) (here : Location) :
    List Text → IO FileSystem
  | [] => do
    if deep then return { fs with root := fs.root.put here (← loadTree here) } else return fs
  | piece :: rest => do
    if Path.isStay piece then loadPieces fs deep here rest
    else if piece == ['.', '.'] then loadPieces fs deep here.dropLast rest
    else
      let loc := here ++ [piece]
      match ← typeAt? loc with
      | none => return fs
      | some .dir =>
        let fs := if fs.isDirAt loc then fs else { fs with root := fs.root.put loc .empty }
        loadPieces fs deep loc rest
      | some .symlink =>
        let target ← linkTarget loc
        let fs := { fs with root := fs.root.put loc (.link target) }
        loadPieces fs deep [] (Path.pieces target ++ rest)
      | some _ => return { fs with root := fs.root.put loc (.file (← contentOf loc)) }

/-- Loads what a path leads to. -/
def load (fs : FileSystem) (deep : Bool) (p : Path) : IO FileSystem :=
  loadPieces fs deep (if Path.isAbsolute p then [] else fs.cwd) (Path.pieces p)

/-- Loads the files that a run with options looks at. -/
def loadFor (o : Command.Options) (fs : FileSystem) : IO FileSystem := do
  let fs ← load fs false ((o.value? .config).getD configFileName)
  match Command.configure fs o with
  | .error _ => return fs
  | .ok (_, s) =>
    let fs ← load fs true s.path
    let fs ← load fs false s.outfile
    match s.template with
    | some p => load fs false p
    | none => return fs

/-- Puts the log that a run wrote on disk. -/
def save (fs : FileSystem) (outfile : Path) : IO Unit := do
  match fs.readBytes outfile with
  | .ok bytes => IO.FS.writeBinFile (String.ofList outfile) ⟨bytes.toArray⟩
  | .error _ => return ()

/-- The present day. -/
def today? : IO (Option Date) := do
  let d ← Std.Time.PlainDate.now
  return Date.of? d.year.toInt d.month.val d.day.val

/-- Runs the command and gives its exit status. -/
def run (args : List String) : IO UInt32 := do
  let args := args.map String.toList
  let cwd := locationOf (← IO.currentDir).toString
  let start := FileSystem.atEmpty cwd
  let fs ← match Command.Options.parse args with
    | .ok o => loadFor o start
    | .error _ => pure start
  match ← today? with
  | none => throw (IO.userError "the calendar ends before this day")
  | some today =>
    let (outcome, fs) := Command.run fs today args
    match outcome with
    | .misused e => IO.eprintln ("error: " ++ String.ofList e.message)
    | .helped => IO.print (String.ofList Command.helpText)
    | .failed f => IO.eprintln (String.ofList f.report)
    | .ended e =>
      if let .documented outfile := e then save fs outfile
      IO.println (String.ofList e.message)
    return UInt32.ofNat outcome.status

end AnnotationLog.Main

/-- The command line. -/
def main (args : List String) : IO UInt32 :=
  AnnotationLog.Main.run args
