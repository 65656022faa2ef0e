/-
File system: a tree of entries and the directory that relative paths start from.

`resolve` follows a path piece by piece.  A link is replaced by the pieces of the path it
leads to; after forty links the path is given up.  Everything else asks where a path leads:
reading wants an entry there, writing is content with an existing directory and a name.
-/
import AnnotationLog.Files.Entry
import AnnotationLog.Files.Error
import AnnotationLog.Files.Path

namespace AnnotationLog

/-- The files a run can see. -/
structure FileSystem where
  root : Entry
  cwd : Location

/-- Where a path leads. -/
inductive Target where
  /-- An entry that exists. -/
  | found (location : Location)
  /-- A name that a directory does not have. -/
  | absent (directory : Location) (name : Text)
  deriving DecidableEq, Repr

/-- How many links a path may follow. -/
def maxLinks : Nat := 40

/-- How many bytes a name may have. -/
def maxNameBytes : Nat := 255

/-- How many bytes a path may have. -/
def maxPathBytes : Nat := 4095

namespace FileSystem

/-- The file system with nothing but an empty directory at a location. -/
def atEmpty (cwd : Location) : FileSystem where
  root := cwd.foldr (fun name e => .dir [(name, e)]) .empty
  cwd

/-- Whether a location holds a directory. -/
def isDirAt (fs : FileSystem) (loc : Location) : Bool :=
  match fs.root.find? loc with
  | some (.dir _) => true
  | _ => false

/-- Follows pieces from a location that is to be a directory.  On the way to a file that may
have to be created, a last name with a slash behind it can only be a directory. -/
def resolveFrom (fs : FileSystem) (creating : Bool) (links : Nat) (here : Location)
    (pieces : List Text) : Except OsError Target :=
  match pieces with
  | [] => .ok (.found here)
  | piece :: rest =>
    match fs.root.find? here with
    | some (.dir children) =>
      if Path.isStay piece then fs.resolveFrom creating links here rest
      else if piece = ['.', '.'] then fs.resolveFrom creating links here.dropLast rest
      else if creating && !rest.isEmpty && rest.all List.isEmpty then .error .isDirectory
      else if maxNameBytes < (Utf8.encode piece).length then .error .nameTooLong
      else
        match children.lookup piece with
        | some (.link target) =>
          match links with
          | 0 => .error .tooManyLinks
          | links + 1 =>
            let start := if Path.isAbsolute target then [] else here
            fs.resolveFrom creating links start (Path.pieces target ++ rest)
        | some _ => fs.resolveFrom creating links (here ++ [piece]) rest
        | none => if rest.isEmpty then .ok (.absent here piece) else .error .notFound
    | _ => .error .notDirectory
termination_by (links, pieces.length)

/-- Follows a path from the root or from the current directory. -/
def resolve (fs : FileSystem) (creating : Bool) (p : Path) : Except OsError Target :=
  if p.contains '\x00' then .error .nulInName
  else
    fs.resolveFrom creating maxLinks (if Path.isAbsolute p then [] else fs.cwd) (Path.pieces p)

/-- Follows a path that is handed on in one piece, so that it must not be too long; the empty
path leads nowhere. -/
def resolveWhole (fs : FileSystem) (creating : Bool) (p : Path) : Except OsError Target :=
  if p.isEmpty then .error .notFound
  else if !p.contains '\x00' && maxPathBytes < (Utf8.encode p).length then .error .nameTooLong
  else fs.resolve creating p

/-- The location that a path of the current directory leads to, however long the path is; the
empty path leads to the current directory itself. -/
def canonical (fs : FileSystem) (p : Path) : Except OsError Location :=
  match fs.resolve false p with
  | .ok (.found loc) => .ok loc
  | .ok (.absent _ _) => .error .notFound
  | .error e => .error e

/-- The entry that a path leads to. -/
def stat (fs : FileSystem) (p : Path) : Except OsError Entry :=
  match fs.resolveWhole false p with
  | .ok (.found loc) =>
    match fs.root.find? loc with
    | some e => .ok e
    | none => .error .notFound
  | .ok (.absent _ _) => .error .notFound
  | .error e => .error e

/-- Whether a path leads to an entry. -/
def exists? (fs : FileSystem) (p : Path) : Bool :=
  (fs.stat p).isOk

/-- Whether a path leads to a directory. -/
def isDir (fs : FileSystem) (p : Path) : Bool :=
  match fs.stat p with
  | .ok (.dir _) => true
  | _ => false

/-- Whether a path leads to a regular file. -/
def isFile (fs : FileSystem) (p : Path) : Bool :=
  match fs.stat p with
  | .ok (.file _) => true
  | _ => false

/-- The content of the file that a path leads to. -/
def readBytes (fs : FileSystem) (p : Path) : Except OsError Bytes :=
  match fs.stat p with
  | .ok (.file bytes) => .ok bytes
  | .ok _ => .error .isDirectory
  | .error e => .error e

/-- The location that writing to a path fills: the file it leads to, or the absent name in an
existing directory. -/
def writeLocation (fs : FileSystem) (p : Path) : Except OsError Location :=
  match fs.resolveWhole true p with
  | .ok (.found loc) => if fs.isDirAt loc then .error .isDirectory else .ok loc
  | .ok (.absent dir name) => .ok (dir ++ [name])
  | .error e => .error e

/-- Writes a whole file, which is created if it is absent. -/
def writeBytes (fs : FileSystem) (p : Path) (bytes : Bytes) : Except OsError FileSystem :=
  match fs.writeLocation p with
  | .ok loc => .ok { fs with root := fs.root.put loc (.file bytes) }
  | .error e => .error e

end FileSystem

end AnnotationLog
