/-
Setting up a file system: directories, links and files where a path asks for them.

These operations build the file systems that runs are tried on.  They are content with what
is there already, and where a path cannot be followed they leave everything as it was.
-/
import AnnotationLog.Files.FileSystem

namespace AnnotationLog.FileSystem

/-- Makes the directories that some pieces ask for, from a location on. -/
def makeDirsFrom (fs : FileSystem) (here : Location) : List Text → FileSystem
  | [] => fs
  | piece :: rest =>
    match fs.resolveFrom false maxLinks here [piece] with
    | .ok (.found loc) => makeDirsFrom fs loc rest
    | .ok (.absent dir name) =>
      let loc := dir ++ [name]
      makeDirsFrom { fs with root := fs.root.put loc .empty } loc rest
    | .error _ => fs

/-- Makes a directory and every directory on the way to it. -/
def makeDirs (fs : FileSystem) (p : Path) : FileSystem :=
  fs.makeDirsFrom (if Path.isAbsolute p then [] else fs.cwd) (Path.pieces p)

/-- Writes a file and makes the directories on the way to it. -/
def install (fs : FileSystem) (p : Path) (bytes : Bytes) : FileSystem :=
  let fs := match Path.namedParent? p with
    | some dir => fs.makeDirs dir
    | none => fs
  match fs.writeBytes p bytes with
  | .ok fs => fs
  | .error _ => fs

/-- The location of the name that a path ends in, a link there not being followed. -/
def nameLocation? (fs : FileSystem) (p : Path) : Option Location :=
  match (Path.pieces p).reverse.dropWhile (·.isEmpty) with
  | [] => none
  | last :: front =>
    let start := if Path.isAbsolute p then [] else fs.cwd
    match fs.resolveFrom false maxLinks start front.reverse with
    | .ok (.found here) => some (here ++ [last])
    | _ => none

/-- Makes a link at a path. -/
def makeLink (fs : FileSystem) (p : Path) (target : Text) : FileSystem :=
  match fs.nameLocation? p with
  | some loc => { fs with root := fs.root.put loc (.link target) }
  | none => fs

/-- Takes away what a path names, a directory with everything in it. -/
def removeAt (fs : FileSystem) (p : Path) : FileSystem :=
  match fs.nameLocation? p with
  | some loc => { fs with root := fs.root.remove loc }
  | none => fs

/-- Everything below the current directory, with its location there. -/
def listing (fs : FileSystem) : List (Location × Entry) :=
  match fs.root.find? fs.cwd with
  | some e => e.descendants
  | none => []

end AnnotationLog.FileSystem
