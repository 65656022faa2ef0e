/-
Fields: what is captured of one annotation.
-/
import AnnotationLog.Annotation.Dialect

namespace AnnotationLog

/-- The captured parts of an annotation.  The detail is kept as it stands in the source, every
line with its indent and comment mark and a line feed behind it. -/
structure Fields where
  indent : Text
  dialect : Dialect
  title : Text
  quality : Option Text
  impact : Option Text
  detail : Text
  deriving DecidableEq, Repr

/-- What every line of an annotation begins with. -/
def Fields.lead (f : Fields) : Text :=
  f.indent ++ f.dialect.mark

end AnnotationLog
