/-
Access: reading and writing text files.

A source file is looked up first, and whatever goes wrong there means that it was not found;
then its size is held against a limit.  Other files are simply read.  A file is written only
into a directory that exists.
-/
import AnnotationLog.Files.Content
import AnnotationLog.Files.FileSystem

namespace AnnotationLog.FileSystem

/-- The text of a source file of limited size. -/
def readSource (fs : FileSystem) (p : Path) (limit : Nat) : Except FileError Text :=
  match fs.stat p with
  | .error _ => .error (.notFound p)
  | .ok (.file bytes) => decodeSource limit bytes
  | .ok _ => .error (.system .isDirectory)

/-- The text of a file. -/
def readText (fs : FileSystem) (p : Path) : Except FileError Text :=
  match fs.readBytes p with
  | .ok bytes => decodeText bytes
  | .error .notFound => .error (.notFound p)
  | .error e => .error (.system e)

/-- Writes a text file into an existing directory. -/
def writeText (fs : FileSystem) (p : Path) (text : Text) : Except FileError FileSystem :=
  match (Path.namedParent? p).filter (!fs.isDir ·) with
  | some dir => .error (.notFound dir)
  | none =>
    match fs.writeBytes p (Utf8.encode text) with
    | .ok fs => .ok fs
    | .error e => .error (.system e)

end AnnotationLog.FileSystem
