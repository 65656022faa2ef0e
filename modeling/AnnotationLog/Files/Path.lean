/-
Paths: text that names a file, and the pieces between its slashes.

A path is kept as it was written, because messages show it so.  An empty piece and a single
dot stand for the directory they are in, with one exception: a dot at the very front of a
path that does not begin at the root is a piece of its own.
-/
import AnnotationLog.Text.Basic

namespace AnnotationLog

/-- A path as it was written. -/
abbrev Path := Text

namespace Path

/-- The pieces between the slashes. -/
def pieces (p : Path) : List Text :=
  List.splitOn '/' p

/-- Whether a path begins at the root. -/
def isAbsolute (p : Path) : Bool :=
  p.head? == some '/'

/-- Whether a piece stands for the directory it is in. -/
def isStay (piece : Text) : Bool :=
  piece == [] || piece == ['.']

/-- The path of a file in a directory. -/
def join (dir file : Path) : Path :=
  if isAbsolute file || dir.isEmpty then file
  else if dir.getLast? == some '/' then dir ++ file
  else dir ++ '/' :: file

/-- Drops pieces that stand for the directory they are in from the end of a reversed list. -/
def dropStays (reversed : List Text) : List Text :=
  reversed.dropWhile isStay

/-- The path without its last piece, pieces that stand still being passed over on either side
of it; a path without a last piece has no parent. -/
def parent? (p : Path) : Option Path :=
  if isAbsolute p then
    match dropStays p.pieces.reverse with
    | [] => none
    | _ :: front =>
      match dropStays front with
      | [] => some ['/']
      | kept => some (Text.join ['/'] kept.reverse)
  else
    match p.pieces with
    | [] => none
    | first :: others =>
      match dropStays others.reverse with
      | [] => if first.isEmpty then none else some []
      | _ :: front => some (Text.join ['/'] (first :: (dropStays front).reverse))

/-- The parent of a path, unless it is the current directory. -/
def namedParent? (p : Path) : Option Path :=
  (parent? p).filter (!·.isEmpty)

end Path

end AnnotationLog
