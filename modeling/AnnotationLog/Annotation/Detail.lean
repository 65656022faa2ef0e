/-
Detail: the lines under a header as running text.
-/
import AnnotationLog.Annotation.Fields
import AnnotationLog.Text.Line
import AnnotationLog.Text.Trim

namespace AnnotationLog

/-- A line without the lead at its front; a line that does not begin with the lead stays, and
so does every line when the lead is empty. -/
def dropLead (lead line : Text) : Text :=
  (Text.after? lead line).getD line

/-- The lines of a block put into one: leads and surrounding white space removed, empty lines
left out, one space between lines and no two spaces together. -/
def cleanDetail (lead block : Text) : Text :=
  let pieces := (Text.lines block).map fun line => Text.trim (dropLead lead line)
  Text.collapseSpaces (Text.join [' '] (pieces.filter (!·.isEmpty)))

/-- The detail of an annotation as running text. -/
def Fields.detailText (f : Fields) : Text :=
  cleanDetail f.lead f.detail

end AnnotationLog
