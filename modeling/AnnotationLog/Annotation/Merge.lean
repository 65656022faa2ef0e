/-
Merging: the annotations of several grammars in one reading order.

Each grammar scans the text on its own.  All their annotations are put in the order of their
first lines, at equal lines in the order of the grammars, and one that begins inside an
annotation already taken is left out.
-/
import AnnotationLog.Annotation.Grammar

namespace AnnotationLog

/-- An annotation together with the position of its grammar in the list. -/
structure Candidate where
  rank : Nat
  span : Span
  deriving DecidableEq, Repr

namespace Candidate

/-- The order of reading: by first line, then by grammar. -/
def le (a b : Candidate) : Bool :=
  a.span.start < b.span.start || (a.span.start == b.span.start && a.rank ≤ b.rank)

end Candidate

/-- All annotations of all grammars. -/
def candidates (grammars : List Grammar) (text : Text) : List Candidate :=
  grammars.zipIdx.flatMap fun (g, rank) => (g.scan text).map fun span => { rank, span }

/-- Keeps, from the front, every annotation that begins at or below line `free`, where `free`
is the line behind the last one kept. -/
def keepDisjoint (free : Nat) : List Candidate → List Candidate
  | [] => []
  | c :: cs =>
    if free ≤ c.span.start then c :: keepDisjoint c.span.stop cs else keepDisjoint free cs

/-- The annotations kept of all grammars, in reading order. -/
def mergedCandidates (grammars : List Grammar) (text : Text) : List Candidate :=
  keepDisjoint 0 ((candidates grammars text).mergeSort Candidate.le)

/-- What the annotations of several grammars capture, in reading order. -/
def matchGrammars (grammars : List Grammar) (text : Text) : List Fields :=
  (mergedCandidates grammars text).map fun c => c.span.fields

end AnnotationLog
