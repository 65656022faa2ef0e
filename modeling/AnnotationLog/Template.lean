/-
Templates: text with a marker for the date and one for every kind.

The date is put in first, then the kinds one after the other in the order of the registry,
each wherever its marker stands in the text reached so far.
-/
import AnnotationLog.Date
import AnnotationLog.Session

namespace AnnotationLog

/-- What stands for a kind in a log: its entries one under another, or its message when there
are none. -/
def Kind.replacement (k : Kind) (entries : List Text) : Text :=
  if entries.isEmpty then Text.trim k.emptyMessage else Text.trim (Text.joinLines entries)

/-- Puts the date into a template. -/
def fillDate (date : Date) (template : Text) : Text :=
  Text.replaceAll dateMarker date.text template

/-- Puts the entries of every registered kind into a text. -/
def fillKinds (r : Registry) (s : Session) (text : Text) : Text :=
  r.kinds.zipIdx.foldl
    (fun text (k, i) => Text.replaceAll k.marker (k.replacement (s.rendered i)) text) text

/-- The log that a template gives for a finalised session. -/
def fill (r : Registry) (s : Session) (date : Date) (template : Text) : Text :=
  fillKinds r s (fillDate date template)

/-- Finalises a session and fills a template with it. -/
def compose (r : Registry) (s : Session) (date : Date) (template : Text) : Text × Session :=
  let s := s.finalize r
  (fill r s date template, s)

end AnnotationLog
