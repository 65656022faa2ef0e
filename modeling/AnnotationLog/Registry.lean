/-
Registry: the kinds that take part in a log.

Kinds are kept in the order in which they were registered.  A kind is refused when it has no
name, no marker or no grammar, or when its marker is taken; the first of these that applies is
the error.
-/
import AnnotationLog.LogType

namespace AnnotationLog

/-- The registered kinds, in order. -/
structure Registry where
  kinds : List Kind := []

namespace Registry

/-- The registry without kinds. -/
def empty : Registry := {}

/-- The number of registered kinds. -/
def size (r : Registry) : Nat :=
  r.kinds.length

/-- Whether no kind is registered. -/
def isEmpty (r : Registry) : Bool :=
  r.kinds.isEmpty

/-- The kind at a position. -/
def get? (r : Registry) (i : Nat) : Option Kind :=
  r.kinds[i]?

/-- The markers of the registered kinds. -/
def markers (r : Registry) : List Text :=
  r.kinds.map Kind.marker

/-- Adds a kind at the end. -/
def register (r : Registry) (k : Kind) : Except LogError Registry :=
  if Text.isBlankText k.name then .error (.invalidKind k.name .noName)
  else if Text.isBlankText k.marker then .error (.invalidKind k.name .noMarker)
  else if k.grammars.isEmpty then .error (.invalidKind k.name .noGrammar)
  else if r.markers.contains k.marker then .error (.duplicateMarker k.marker)
  else .ok { kinds := r.kinds ++ [k] }

/-- Adds kinds one after the other.  The registry reached is kept also when one is refused. -/
def registerAll (r : Registry) : List Kind → Registry × Except LogError Unit
  | [] => (r, .ok ())
  | k :: ks =>
    match r.register k with
    | .ok r => registerAll r ks
    | .error e => (r, .error e)

/-- The registry with the built-in kinds of a log type. -/
def forLogType (type : LogType) : Registry where
  kinds := type.kinds.map BuiltinKind.kind

/-- The names of the registered kinds, quoted. -/
def quotedNames (r : Registry) : Text :=
  Text.quoteList (r.kinds.map Kind.name)

end Registry

end AnnotationLog
