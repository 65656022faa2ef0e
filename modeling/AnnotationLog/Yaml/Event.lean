/-
Events: the tokens of a document as a tree written out in order.

A collection is a start event, the events of its items and an end event; an alias stands for
the node that begins at its anchor.  Reading stops at the first token that fits nowhere, and
the events before it are kept: whoever walks through them notices the end only on reaching it.

An anchor gets as its number the count of different names in use before it, and the node that
an alias stands for is the last one that got the number the name had at the alias.
-/
import AnnotationLog.Yaml.Token

namespace AnnotationLog.Yaml

/-- A scalar with its tag. -/
structure Scalar where
  text : Text
  style : ScalarStyle
  tag : Option Tag
  deriving DecidableEq, Repr

/-- An event. -/
inductive Event where
  | alias (number : Nat)
  | scalar (s : Scalar)
  | sequenceStart (tag : Option Tag)
  | sequenceEnd
  | mappingStart (tag : Option Tag)
  | mappingEnd
  deriving DecidableEq, Repr

/-- What a text holds. -/
structure Document where
  /-- The events of the first document. -/
  events : List Event
  /-- The position of the event that every anchor number stands for. -/
  anchors : List (Nat × Nat)
  /-- Whether the text is sound to its end and holds no second document. -/
  sound : Bool

/-! ### What may come next -/

/-- What the reader is waiting for inside an open collection or document. -/
inductive Awaited where
  | documentEnd
  | blockItem
  | indentlessItem
  | blockKey
  | blockValue
  | flowItem (first : Bool)
  | flowPairKey
  | flowPairValue
  | flowPairEnd
  | flowKey (first : Bool)
  | flowValue
  | flowNoValue
  deriving DecidableEq, Repr

/-- What reading one event gives. -/
inductive Read where
  /-- An event with its anchor, and what is awaited after it, innermost first. -/
  | event (anchor : Option Text) (e : Event) (stack : List Awaited) (rest : List Token)
  /-- An alias by its name. -/
  | alias (name : Text) (stack : List Awaited) (rest : List Token)
  /-- The document is complete. -/
  | done (rest : List Token)

/-- The tags that a document can abbreviate: handles and what they stand for. -/
abbrev TagHandles := List (Text × Tag)

/-- The handles that every document has. -/
def defaultHandles : TagHandles :=
  [("!".toList, [Tag.bang]), ("!!".toList, Tag.core "")]

/-- The tag that a handle and a suffix stand for; an empty handle stands for nothing. -/
def resolveTag? (handles : TagHandles) (handle : Text) (suffix : Tag) : Option Tag :=
  if handle.isEmpty then some suffix else (handles.lookup handle).map (· ++ suffix)

/-- The scalar that stands where nothing is written. -/
def emptyScalar (tag : Option Tag) : Event :=
  .scalar { text := [], style := .plain, tag }

/-- The anchor and the tag in front of a node, in either order. -/
def properties? (handles : TagHandles) :
    List Token → Option (Option Text × Option Tag × List Token)
  | .anchor a :: .tag h s :: ts => (resolveTag? handles h s).map fun t => (some a, some t, ts)
  | .tag h s :: .anchor a :: ts => (resolveTag? handles h s).map fun t => (some a, some t, ts)
  | .anchor a :: ts => some (some a, none, ts)
  | .tag h s :: ts => (resolveTag? handles h s).map fun t => (none, some t, ts)
  | ts => some (none, none, ts)

/-- Reads the first event of a node.  In block context a node may be a block collection, and
where an indentless list is allowed its items need no indentation of their own. -/
def readNode? (handles : TagHandles) (block indentless : Bool) (stack : List Awaited)
    (ts : List Token) : Option Read :=
  match ts with
  | .alias name :: ts => some (.alias name stack ts)
  | ts => do
    let (anchor, tag, ts) ← properties? handles ts
    match ts with
    | [] => none
    | .scalar text style :: ts => some (.event anchor (.scalar { text, style, tag }) stack ts)
    | .flowSequenceStart :: ts =>
      some (.event anchor (.sequenceStart tag) (.flowItem true :: stack) ts)
    | .flowMappingStart :: ts =>
      some (.event anchor (.mappingStart tag) (.flowKey true :: stack) ts)
    | t :: rest =>
      if indentless && t == .blockEntry then
        some (.event anchor (.sequenceStart tag) (.indentlessItem :: stack) ts)
      else if block && t == .blockSequenceStart then
        some (.event anchor (.sequenceStart tag) (.blockItem :: stack) rest)
      else if block && t == .blockMappingStart then
        some (.event anchor (.mappingStart tag) (.blockKey :: stack) rest)
      else if anchor.isSome || tag.isSome then
        some (.event anchor (emptyScalar tag) stack ts)
      else none

/-- Reads a node, or nothing if one of some tokens comes next. -/
def readUnless? (handles : TagHandles) (ends : List Token) (block indentless : Bool)
    (stack : List Awaited) (ts : List Token) : Option Read :=
  match ts with
  | [] => none
  | t :: _ =>
    if ends.contains t then some (.event none (emptyScalar none) stack ts)
    else readNode? handles block indentless stack ts

/-- Reads the next event of an item of a list in brackets. -/
def readFlowItem? (handles : TagHandles) (stack : List Awaited) (ts : List Token) :
    Option Read :=
  match ts with
  | [] => none
  | .flowSequenceEnd :: rest => some (.event none .sequenceEnd stack rest)
  | .key :: rest => some (.event none (.mappingStart none) (.flowPairKey :: stack) rest)
  | ts => readNode? handles false false (.flowItem false :: stack) ts

/-- Reads the next event of an entry of a mapping in brackets. -/
def readFlowKey? (handles : TagHandles) (stack : List Awaited) (ts : List Token) :
    Option Read :=
  match ts with
  | [] => none
  | .flowMappingEnd :: rest => some (.event none .mappingEnd stack rest)
  | .key :: rest =>
    readUnless? handles [.value, .flowEntry, .flowMappingEnd] false false (.flowValue :: stack) rest
  | ts => readNode? handles false false (.flowNoValue :: stack) ts

/-- Reads the next event, according to what is awaited.  Every token looked at must be there,
also one that only ends something. -/
def readNext? (handles : TagHandles) (awaited : Awaited) (stack : List Awaited)
    (ts : List Token) : Option Read :=
  match awaited, ts with
  | _, [] => none
  | .documentEnd, .documentEnd :: rest => some (.done rest)
  | .documentEnd, ts => some (.done ts)
  | .blockItem, .blockEntry :: rest =>
    readUnless? handles [.blockEntry, .blockEnd] true false (.blockItem :: stack) rest
  | .blockItem, .blockEnd :: rest => some (.event none .sequenceEnd stack rest)
  | .blockItem, _ => none
  | .indentlessItem, .blockEntry :: rest =>
    readUnless? handles [.blockEntry, .key, .value, .blockEnd] true false
      (.indentlessItem :: stack) rest
  | .indentlessItem, ts => some (.event none .sequenceEnd stack ts)
  | .blockKey, .key :: rest =>
    readUnless? handles [.key, .value, .blockEnd] true true (.blockValue :: stack) rest
  | .blockKey, .blockEnd :: rest => some (.event none .mappingEnd stack rest)
  | .blockKey, _ => none
  | .blockValue, .value :: rest =>
    readUnless? handles [.key, .value, .blockEnd] true true (.blockKey :: stack) rest
  | .blockValue, ts => some (.event none (emptyScalar none) (.blockKey :: stack) ts)
  | .flowItem true, ts => readFlowItem? handles stack ts
  | .flowItem false, .flowSequenceEnd :: rest => some (.event none .sequenceEnd stack rest)
  | .flowItem false, .flowEntry :: rest => readFlowItem? handles stack rest
  | .flowItem false, _ => none
  | .flowPairKey, t :: rest =>
    if [Token.value, .flowEntry, .flowSequenceEnd].contains t then
      some (.event none (emptyScalar none) (.flowPairValue :: stack) rest)
    else readNode? handles false false (.flowPairValue :: stack) (t :: rest)
  | .flowPairValue, .value :: rest =>
    readUnless? handles [.flowEntry, .flowSequenceEnd] false false (.flowPairEnd :: stack) rest
  | .flowPairValue, ts => some (.event none (emptyScalar none) (.flowPairEnd :: stack) ts)
  | .flowPairEnd, ts => some (.event none .mappingEnd (.flowItem false :: stack) ts)
  | .flowKey true, ts => readFlowKey? handles stack ts
  | .flowKey false, .flowMappingEnd :: rest => some (.event none .mappingEnd stack rest)
  | .flowKey false, .flowEntry :: rest => readFlowKey? handles stack rest
  | .flowKey false, _ => none
  | .flowValue, .value :: rest =>
    readUnless? handles [.flowEntry, .flowMappingEnd] false false (.flowKey false :: stack) rest
  | .flowValue, ts => some (.event none (emptyScalar none) (.flowKey false :: stack) ts)
  | .flowNoValue, ts => some (.event none (emptyScalar none) (.flowKey false :: stack) ts)

/-! ### Documents -/

/-- The anchors met so far: the number of every name, and the event of every number. -/
structure Anchors where
  numbers : List (Text × Nat) := []
  events : List (Nat × Nat) := []

namespace Anchors

/-- Sets a name's anchor at an event. -/
def set (a : Anchors) (name : Text) (event : Nat) : Anchors :=
  let number := a.numbers.length
  { numbers := (name, number) :: a.numbers.filter (·.1 != name)
    events := (number, event) :: a.events }

end Anchors

/-- Reads the events of a document as long as every token fits.  Gives the events, last one
first, the anchors, and the tokens behind the document if it is complete. -/
def readEvents (handles : TagHandles) :
    (fuel : Nat) → (events : List Event) → Anchors → List Awaited → List Token →
      List Event × Anchors × Option (List Token)
  | 0, events, anchors, _, _ => (events, anchors, none)
  | _ + 1, events, anchors, [], _ => (events, anchors, none)
  | fuel + 1, events, anchors, awaited :: stack, ts =>
    match readNext? handles awaited stack ts with
    | none => (events, anchors, none)
    | some (.done rest) => (events, anchors, some rest)
    | some (.alias name stack rest) =>
      match anchors.numbers.lookup name with
      | some number => readEvents handles fuel (.alias number :: events) anchors stack rest
      | none => (events, anchors, none)
    | some (.event anchor e stack rest) =>
      let anchors := match anchor with
        | some name => anchors.set name events.length
        | none => anchors
      readEvents handles fuel (e :: events) anchors stack rest

/-- Reads the directives in front of a document: at most one version, which is 1.1 or 1.2, and
no handle twice. -/
def readDirectives? :
    (versions : Nat) → TagHandles → List Token → Option (TagHandles × List Token)
  | versions, handles, .version major minor :: ts =>
    if versions = 0 && major == 1 && (minor == 1 || minor == 2) then
      readDirectives? (versions + 1) handles ts
    else none
  | versions, handles, .tagDirective handle lead :: ts =>
    if (handles.lookup handle).isSome then none
    else readDirectives? versions ((handle, lead) :: handles) ts
  | _, handles, ts => some (handles, ts)

/-- Whether a document begins with a directive or a separating line. -/
def isExplicit : List Token → Bool
  | .version _ _ :: _ => true
  | .tagDirective _ _ :: _ => true
  | .documentStart :: _ => true
  | _ => false

/-- The tokens in front of which a document is empty. -/
def endsDocument : Token → Bool
  | .version _ _ | .tagDirective _ _ | .documentStart | .documentEnd | .streamEnd => true
  | _ => false

/-- Whether nothing but the end follows a document. -/
def onlyEnds : List Token → Bool
  | .documentEnd :: ts => onlyEnds ts
  | [.streamEnd] => true
  | _ => false

/-- Reads the root of a document and everything in it. -/
def readRoot (handles : TagHandles) (empty : Bool) (ts : List Token) : Document :=
  let fuel := 4 * ts.length + 4
  let (events, anchors, rest) :=
    if empty then readEvents handles fuel [emptyScalar none] {} [.documentEnd] ts
    else
      match readNode? handles true false [.documentEnd] ts with
      | some (.event anchor e stack rest) =>
        let anchors := match anchor with
          | some name => Anchors.set {} name 0
          | none => {}
        readEvents handles fuel [e] anchors stack rest
      | _ => ([], {}, none)
  { events := events.reverse, anchors := anchors.events, sound := rest.any onlyEnds }

/-- What a text holds.  A text without a document is sound and has no events. -/
def read (text : Text) : Document :=
  let broken : Document := { events := [], anchors := [], sound := false }
  match tokens text with
  | [.streamEnd] => { broken with sound := true }
  | ts =>
    if isExplicit ts then
      match readDirectives? 0 [] ts with
      | some (handles, .documentStart :: rest) =>
        let handles := handles ++ defaultHandles
        match rest with
        | [] => broken
        | t :: _ => readRoot handles (endsDocument t) rest
      | _ => broken
    else readRoot defaultHandles false ts

end AnnotationLog.Yaml
