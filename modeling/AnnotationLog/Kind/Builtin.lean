/-
Built-in kinds: assumptions, caveats, technical debt and things to do.
-/
import AnnotationLog.Kind.Basic
import AnnotationLog.Kind.Entry

namespace AnnotationLog

/-- The kinds that need no configuration. -/
inductive BuiltinKind where
  | assumption
  | caveat
  | debt
  | todo
  deriving DecidableEq, Repr

namespace BuiltinKind

/-- The name of a kind. -/
def name : BuiltinKind → Text
  | assumption => "Assumption".toList
  | caveat => "Caveat".toList
  | debt => "Debt".toList
  | todo => "Todo".toList

/-- The marker of a kind in a template. -/
def marker : BuiltinKind → Text
  | assumption => "{ assumptions }".toList
  | caveat => "{ caveats }".toList
  | debt => "{ debt }".toList
  | todo => "{ todos }".toList

/-- What a log says when there is nothing of a kind. -/
def emptyMessage : BuiltinKind → Text
  | assumption => "Currently no assumptions in this analysis.\n".toList
  | caveat => "Currently no caveats in this analysis.\n".toList
  | debt => "Currently no technical debt recorded.\n".toList
  | todo => "Great, there's nothing to do!\n".toList

/-- The keywords of a kind, as they are written. -/
def keywords : BuiltinKind → List Text
  | assumption => ["assumption".toList, "assume".toList]
  | caveat => ["caveat".toList]
  | debt => ["technical debt".toList, "tech debt".toList, "debt".toList]
  | todo => ["todo".toList, "to do".toList, "to-do".toList]

/-- Whether annotations of a kind carry a quality and an impact and must have a detail. -/
def rated : BuiltinKind → Bool
  | assumption => true
  | _ => false

/-- How an annotation of a kind is written. -/
def render : BuiltinKind → Nat → Path → Fields → Text
  | assumption => ratedEntry assumption.name
  | caveat => headingEntry caveat.name
  | debt => headingEntry debt.name
  | todo => fun _ _ fields => checklistEntry fields

/-- The kind itself. -/
def kind (b : BuiltinKind) : Kind where
  name := b.name
  marker := b.marker
  emptyMessage := b.emptyMessage
  grammars := Grammar.forAllDialects (readKeywords b.keywords) b.rated b.rated
  render := b.render

end BuiltinKind

end AnnotationLog
