/-
Entries of a log: how one annotation is written in Markdown.

A heading entry is a numbered section with the location and, if there is one, the detail.  A
rated entry adds the two ratings and always has a detail.  A checklist entry is one line with
an empty box.
-/
import AnnotationLog.Annotation.Detail
import AnnotationLog.Files.Path

namespace AnnotationLog

/-- The heading of a section: the kind, the number and the title. -/
def sectionHeading (kind : Text) (number : Nat) (title : Text) : Text :=
  "### ".toList ++ kind ++ ' ' :: Text.ofNat number ++ ": ".toList ++ title

/-- A section with the location and the ratings of an annotation. -/
def ratedEntry (kind : Text) (number : Nat) (path : Path) (f : Fields) : Text :=
  Text.joinLines
    [sectionHeading kind number f.title, [],
     "* Location: ".toList ++ Text.backquoted path,
     "* **Quality**: ".toList ++ f.quality.getD [],
     "* **Impact**: ".toList ++ f.impact.getD [],
     [], f.detailText, [], []]

/-- A section with the location of an annotation. -/
def headingEntry (kind : Text) (number : Nat) (path : Path) (f : Fields) : Text :=
  let detail := f.detailText
  Text.joinLines
    ([sectionHeading kind number f.title, [], "Location: ".toList ++ Text.backquoted path, []] ++
      (if detail.isEmpty then [] else [detail, []]) ++ [[]])

/-- A line with an empty box, the title and the detail. -/
def checklistEntry (f : Fields) : Text :=
  let detail := f.detailText
  let text := if detail.isEmpty then f.title else f.title ++ ' ' :: detail
  "- [ ] ".toList ++ Text.collapseSpaces (Text.trim text)

end AnnotationLog
