/-
Search: the annotations in the files of a tree.

The search root is resolved first, links and all.  Then every regular file at or below it
whose name has the wanted ending is read in the order of the walk; one that cannot be read as
text is skipped and counted.  A finding records the path of its file from the root's own name
on.

The search takes the bytes of a file from the tree, so the limits that the system sets to paths
are left out of it: a file too deep for its path to be looked up, which `readSource` would not
find, is searched here like any other.
-/
import AnnotationLog.Files.Access
import AnnotationLog.Session

namespace AnnotationLog

/-- What a search met. -/
structure SearchStats where
  scanned : Nat := 0
  skipped : Nat := 0
  matched : Nat := 0
  deriving DecidableEq, Repr

/-- The ending of file names that an extension asks for: white space around the extension does
not count, a dot is put in front of one that has none, and the empty one asks for nothing. -/
def extensionEnding (extension : Text) : Text :=
  let t := Text.trim extension
  if t.isEmpty || t.head? == some '.' then t else '.' :: t

/-- A file that a search comes upon: its path from the root's own name on, and its bytes. -/
structure FoundFile where
  names : Location
  bytes : Bytes
  deriving DecidableEq, Repr

namespace FoundFile

/-- The path that findings record. -/
def path (f : FoundFile) : Path :=
  Text.join ['/'] f.names

/-- Whether the name of a file has an ending. -/
def hasEnding (ending : Text) (f : FoundFile) : Bool :=
  Text.endsWith ending (f.names.getLast?.getD [])

end FoundFile

/-- The files at or below an entry with a canonical location, with the wanted ending, in the
order of the walk. -/
def filesToSearch (root : Location) (entry : Entry) (ending : Text) : List FoundFile :=
  let base := root.drop (root.length - 1)
  (entry.files.map fun (loc, bytes) => { names := base ++ loc, bytes }).filter
    (FoundFile.hasEnding ending)

/-- Searches one file. -/
def searchFile (r : Registry) (limit : Nat) (found : Session × SearchStats) (f : FoundFile) :
    Session × SearchStats :=
  let (s, stats) := found
  match decodeSource limit f.bytes with
  | .error _ => (s, { stats with skipped := stats.skipped + 1 })
  | .ok text =>
    (s.scan r f.path text,
     { stats with
       scanned := stats.scanned + 1
       matched := stats.matched + (r.kinds.flatMap fun k => k.find text).length })

/-- Searches a path for the annotations of all registered kinds. -/
def search (fs : FileSystem) (r : Registry) (limit : Nat) (p : Path) (extension : Text)
    (s : Session) : Except LogError (Session × SearchStats) :=
  if r.isEmpty then .error .noKinds
  else
    match fs.canonical p with
    | .error e => .error (.searchRoot p e)
    | .ok root =>
      let files := match fs.root.find? root with
        | some entry => filesToSearch root entry (extensionEnding extension)
        | none => []
      .ok (files.foldl (searchFile r limit) (s.sync r, {}))

end AnnotationLog
