/-
Lines: a text cut at its line feeds.

A line feed ends a line and belongs to none.  A carriage return right before it belongs to
the line end too; anywhere else it is an ordinary character, also at the very end of a text
that has no last line feed.  What follows the last line feed is a line only if it is not
empty.
-/
import AnnotationLog.Text.Basic

namespace AnnotationLog.Text

/-- The lines of a text. -/
def lines : Text → List Text
  | [] => []
  | '\n' :: cs => [] :: lines cs
  | '\r' :: '\n' :: cs => [] :: lines cs
  | c :: cs =>
    match lines cs with
    | [] => [[c]]
    | line :: rest => (c :: line) :: rest

/-- Lines written out, each ended by a line feed. -/
def unlines (ls : List Text) : Text :=
  ls.flatMap (· ++ ['\n'])

end AnnotationLog.Text
