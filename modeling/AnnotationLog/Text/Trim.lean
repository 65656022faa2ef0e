/-
Trimming: white space at the ends of a text, and the words between white space.
-/
import AnnotationLog.Text.Basic
import AnnotationLog.Unicode.WhiteSpace

namespace AnnotationLog.Text

open Unicode

/-- A text without the white space at its beginning. -/
def trimStart (t : Text) : Text :=
  t.dropWhile isWhiteSpace

/-- A text without the white space at its end. -/
def trimEnd (t : Text) : Text :=
  (t.reverse.dropWhile isWhiteSpace).reverse

/-- A text without the white space around it. -/
def trim (t : Text) : Text :=
  trimEnd (trimStart t)

/-- Whether there is nothing but white space in a text. -/
def isBlankText (t : Text) : Bool :=
  t.all isWhiteSpace

/-- The words of a text: its longest pieces without white space. -/
def words (t : Text) : List Text :=
  (t.splitOnP isWhiteSpace).filter (!·.isEmpty)

end AnnotationLog.Text
