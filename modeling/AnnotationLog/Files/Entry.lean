/-
Entries: files, links and directories as one tree.

A directory lists its children in no particular order, as an operating system does.  A
location is the names on the way from the root; `find?` looks an entry up, `put` sets one and
`remove` takes one away.  `files` is the walk: all regular files below an entry, links not
followed, every directory in the order of names.
-/
import AnnotationLog.Text.Utf8

namespace AnnotationLog

/-- The names on the way from the root to an entry. -/
abbrev Location := List Text

/-- A file with its content, a link with the path it leads to, or a directory. -/
inductive Entry where
  | file (bytes : Bytes)
  | link (target : Text)
  | dir (children : List (Text × Entry))

namespace Entry

/-- An empty directory. -/
def empty : Entry := .dir []

/-- The entry at a location below this one. -/
def find? : Entry → Location → Option Entry
  | e, [] => some e
  | .dir children, name :: names =>
    match children.lookup name with
    | some child => find? child names
    | none => none
  | _, _ :: _ => none

/-- Sets the entry of a name in a listing. -/
def setChild (name : Text) (entry : Entry) : List (Text × Entry) → List (Text × Entry)
  | [] => [(name, entry)]
  | (n, old) :: rest =>
    if n = name then (n, entry) :: rest else (n, old) :: setChild name entry rest

/-- Sets the entry at a location whose directory exists; otherwise nothing changes. -/
def put : Entry → Location → (new : Entry) → Entry
  | _, [], new => new
  | .dir children, [name], new => .dir (setChild name new children)
  | .dir children, name :: names, new =>
    match children.lookup name with
    | some child => .dir (setChild name (put child names new) children)
    | none => .dir children
  | e, _ :: _, _ => e

/-- Takes away the entry at a location. -/
def remove : Entry → Location → Entry
  | e, [] => e
  | .dir children, [name] => .dir (children.filter (·.1 != name))
  | .dir children, name :: names =>
    match children.lookup name with
    | some child => .dir (setChild name (remove child names) children)
    | none => .dir children
  | e, _ :: _ => e

mutual

/-- The regular files at or below an entry, with their locations below it, in the order of
names. -/
def files : Entry → List (Location × Bytes)
  | .file bytes => [([], bytes)]
  | .link _ => []
  | .dir children =>
    ((filesIn children).mergeSort fun a b => Text.le a.1 b.1).flatMap fun (name, below) =>
      below.map fun (loc, bytes) => (name :: loc, bytes)

/-- The regular files of every child of a directory. -/
def filesIn : List (Text × Entry) → List (Text × List (Location × Bytes))
  | [] => []
  | (name, child) :: rest => (name, files child) :: filesIn rest

end

mutual

/-- Every entry below a directory with its location, a directory before what is in it. -/
def descendants : Entry → List (Location × Entry)
  | .dir children => descendantsIn children
  | _ => []

/-- Every child of a listing and every entry below it. -/
def descendantsIn : List (Text × Entry) → List (Location × Entry)
  | [] => []
  | (name, child) :: rest =>
    ([name], child) :: (descendants child).map (fun (loc, e) => (name :: loc, e)) ++
      descendantsIn rest

end

end Entry

end AnnotationLog
