/-
Custom kinds: kinds that a configuration describes.

They are looked for in every dialect, take no ratings and need no detail.
-/
import AnnotationLog.Kind.Basic
import AnnotationLog.Kind.Entry
import AnnotationLog.Unicode.LowerCase

namespace AnnotationLog

/-- How the annotations of a custom kind are written. -/
inductive EntryStyle where
  | heading
  | checklist
  deriving DecidableEq, Repr

/-- The description of a custom kind. -/
structure CustomKind where
  name : Text
  keywords : List Text
  marker : Text
  emptyMessage : Option Text
  style : EntryStyle
  deriving DecidableEq, Repr

namespace CustomKind

/-- What a log says when there is nothing of a kind and its description gives no message. -/
def defaultEmptyMessage (name : Text) : Text :=
  "Currently no ".toList ++ Unicode.toLower name ++ " items.\n".toList

/-- How an annotation of the kind is written. -/
def render (c : CustomKind) : Nat → Path → Fields → Text :=
  match c.style with
  | .heading => headingEntry c.name
  | .checklist => fun _ _ fields => checklistEntry fields

/-- The kind that is described; it needs at least one keyword. -/
def build (c : CustomKind) : Except LogError Kind :=
  match readKeywords c.keywords with
  | [] => .error (.invalidKind c.name .noKeyword)
  | ks => .ok {
      name := c.name
      marker := c.marker
      emptyMessage := c.emptyMessage.getD (defaultEmptyMessage c.name)
      grammars := Grammar.forAllDialects ks false false
      render := c.render }

end CustomKind

end AnnotationLog
