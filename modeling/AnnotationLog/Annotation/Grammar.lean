/-
Grammars: which comment blocks are annotations.

A block opens with a labelled line (indent, comment mark, keyword, colon, title).  Its *lead*
is the indent with the mark, and every further line of the block begins with exactly that
lead.  A rated grammar wants a quality line and an impact line next.  The remaining lines with
the lead, as many as follow one another, are the detail.

`blockAt?` recognises a block at the front of some lines; `scan` walks down the lines, takes
every block it meets and goes on behind it.

Keywords may be as many and as long as one likes.  A recogniser that is compiled from them
has a limit of size and would refuse a list beyond it; that limit is not modelled, and so every
list with a word in it gives a grammar.
-/
import AnnotationLog.Annotation.Fields
import AnnotationLog.Annotation.Keyword
import AnnotationLog.Text.Line

namespace AnnotationLog

/-- A grammar for one dialect. -/
structure Grammar where
  dialect : Dialect
  keywords : List Keyword
  rated : Bool
  detailRequired : Bool
  deriving DecidableEq, Repr

/-- The keywords written in some texts; a text without a word gives none. -/
def readKeywords (texts : List Text) : List Keyword :=
  texts.filterMap Keyword.ofText?

/-- The labels of a quality line. -/
def qualityKeywords : List Keyword :=
  [⟨["quality".toList]⟩, ⟨["q".toList]⟩]

/-- The labels of an impact line. -/
def impactKeywords : List Keyword :=
  [⟨["impact".toList]⟩, ⟨["i".toList]⟩]

/-- An annotation at the front of some lines: what it captures and how many lines it takes. -/
structure Block where
  fields : Fields
  height : Nat
  deriving DecidableEq, Repr

/-- An annotation in a text: the lines from `start` up to, not including, `stop`. -/
structure Span where
  start : Nat
  stop : Nat
  fields : Fields
  deriving DecidableEq, Repr

namespace Grammar

/-- The grammar of a dialect with the keywords written in some texts, unless there are none. -/
def ofTexts? (dialect : Dialect) (keywords : List Text) (rated detailRequired : Bool) :
    Option Grammar :=
  match readKeywords keywords with
  | [] => none
  | ks => some { dialect, keywords := ks, rated, detailRequired }

/-- The indent and the title of a line that opens an annotation. -/
def header? (g : Grammar) (line : Text) : Option (Text × Text) :=
  let indent := line.takeWhile Text.isBlank
  match Text.after? g.dialect.mark (line.dropWhile Text.isBlank) with
  | some rest => (labelValue? g.keywords rest).map (indent, ·)
  | none => none

/-- The value of a rating line with the given lead. -/
def rating? (lead : Text) (keywords : List Keyword) (line : Text) : Option Text :=
  match Text.after? lead line with
  | some rest => labelValue? keywords rest
  | none => none

/-- The ratings at the front of the lines under a header, and the lines under them.  A grammar
without ratings takes none. -/
def ratings? (g : Grammar) (lead : Text) (below : List Text) :
    Option (Option Text × Option Text × List Text) :=
  if g.rated then
    match below with
    | first :: second :: rest => do
      let quality ← rating? lead qualityKeywords first
      let impact ← rating? lead impactKeywords second
      pure (some quality, some impact, rest)
    | _ => none
  else some (none, none, below)

/-- The annotation that opens at the first of some lines. -/
def blockAt? (g : Grammar) : List Text → Option Block
  | [] => none
  | line :: below =>
    match g.header? line with
    | none => none
    | some (indent, title) =>
      let lead := indent ++ g.dialect.mark
      match g.ratings? lead below with
      | none => none
      | some (quality, impact, rest) =>
        let detail := rest.takeWhile (Text.startsWith lead)
        if g.detailRequired && detail.isEmpty then none
        else some {
          fields := { indent, dialect := g.dialect, title, quality, impact,
                      detail := Text.unlines detail }
          height := 1 + (if g.rated then 2 else 0) + detail.length }

/-- The annotations in some lines of which the first has number `start`. -/
def scanFrom (g : Grammar) (start : Nat) : List Text → List Span
  | [] => []
  | line :: below =>
    match g.blockAt? (line :: below) with
    | some b =>
      { start, stop := start + b.height, fields := b.fields } ::
        scanFrom g (start + b.height) (below.drop (b.height - 1))
    | none => scanFrom g (start + 1) below
termination_by ls => ls.length
decreasing_by all_goals grind

/-- The annotations in a text, from top to bottom. -/
def scan (g : Grammar) (text : Text) : List Span :=
  g.scanFrom 0 (Text.lines text)

/-- What the annotations in a text capture. -/
def findAll (g : Grammar) (text : Text) : List Fields :=
  (g.scan text).map Span.fields

end Grammar

end AnnotationLog
