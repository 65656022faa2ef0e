/-
Dialects: the ways a comment line can begin.
-/
import AnnotationLog.Text.Basic

namespace AnnotationLog

/-- A way to write comment lines. -/
inductive Dialect where
  | hash
  | roxygen
  | doubleSlash
  deriving DecidableEq, Repr

namespace Dialect

/-- The characters that make a line a comment. -/
def mark : Dialect → Text
  | hash => ['#']
  | roxygen => ['#', Text.apostrophe]
  | doubleSlash => ['/', '/']

/-- All dialects, in the order in which every kind looks for them. -/
def all : List Dialect :=
  [hash, roxygen, doubleSlash]

end Dialect

end AnnotationLog
