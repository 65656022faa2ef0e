/-
Kinds: what a log collects.

A kind brings its grammars, the marker that a template uses for it, a message for the case
that nothing was found, and the way one of its annotations is written.
-/
import AnnotationLog.Annotation.Merge
import AnnotationLog.Error

namespace AnnotationLog

/-- A kind of annotation. -/
structure Kind where
  name : Text
  marker : Text
  emptyMessage : Text
  grammars : List Grammar
  /-- An annotation as text: its number, the path of its file and what it captured. -/
  render : Nat → Path → Fields → Text

namespace Kind

/-- What the annotations of a kind in a text capture, from top to bottom. -/
def find (k : Kind) (text : Text) : List Fields :=
  matchGrammars k.grammars text

end Kind

/-- One grammar for every dialect. -/
def Grammar.forAllDialects (keywords : List Keyword) (rated detailRequired : Bool) :
    List Grammar :=
  Dialect.all.map fun dialect => { dialect, keywords, rated, detailRequired }

/-- The grammar of a dialect with the keywords written in some texts, of which there must be
one.  No kind is known yet, so the error names none. -/
def Grammar.ofTexts (dialect : Dialect) (keywords : List Text) (rated detailRequired : Bool) :
    Except LogError Grammar :=
  match Grammar.ofTexts? dialect keywords rated detailRequired with
  | some g => .ok g
  | none => .error (.invalidKind [] .noKeyword)

end AnnotationLog
