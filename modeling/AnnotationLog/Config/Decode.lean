/-
Decoding: a configuration out of the events of a YAML document.

The document is walked once from front to back, and the first thing that does not fit is the
error, so a value of the wrong kind is reported even if the text breaks off behind it.  An
alias is decoded where its anchor stands, and the walk goes on behind the alias.
-/
import AnnotationLog.Config.Basic
import AnnotationLog.Yaml.Resolve

namespace AnnotationLog

open Yaml

/-- What a walk needs to know of the whole document. -/
structure Decoding where
  /-- All events of the document. -/
  events : List Event
  /-- How many events there are. -/
  size : Nat
  /-- The position of the event that every anchor number stands for. -/
  anchors : List (Nat × Nat)

/-- The state of a walk: the events that are left and the number of aliases followed. -/
structure Walk where
  rest : List Event
  follows : Nat := 0

/-- A step of the walk. -/
abbrev Decoder := ReaderT Decoding (StateT Walk (Except ConfigFault))

namespace Decoder

/-- Stops at a value that does not fit. -/
def refuse {α : Type} (place : Place) (what : Misfit) : Decoder α :=
  throw (.misfit place what)

/-- The next event, which stays; there must be one. -/
def peek : Decoder Event := do
  match (← get).rest with
  | e :: _ => pure e
  | [] => throw .malformed

/-- Passes over the next event. -/
def advance : Decoder Unit :=
  modify fun w => { w with rest := w.rest.drop 1 }

/-- Decodes the next node, or the node that an alias there stands for.  Aliases may not be
followed more than a hundred times as often as the document has events. -/
def node {α : Type} (decode : Event → Decoder α) : Decoder α := do
  match ← peek with
  | .alias number => do
    let d ← read
    let w ← get
    if d.size * 100 < w.follows + 1 then throw .malformed
    let target := d.events.drop ((d.anchors.lookup number).getD 0)
    set { rest := target, follows := w.follows + 1 : Walk }
    let a ← decode (← peek)
    modify fun inner => { inner with rest := w.rest.drop 1 }
    pure a
  | e => decode e

/-- How an event does not fit where something else is expected. -/
def misfit (e : Event) (expected : String) : Misfit :=
  match e with
  | .scalar s => s.misfit expected.toList
  | .sequenceStart _ => .invalidType .sequence expected.toList
  | _ => .invalidType .mapping expected.toList

/-- The text of a scalar. -/
def text (expected : String) (place : Place) : Decoder Text :=
  node fun e => do
    match e with
    | .scalar s => advance; pure s.text
    | e => refuse place (misfit e expected)

/-- A number below 2^64. -/
def natural (place : Place) : Decoder Nat :=
  node fun e => do
    match e with
    | .scalar s =>
      let readable :=
        s.style == .plain || (s.style == .literal && s.tag == some (Tag.core "int"))
      match if readable then natural? (Nat.pow 2 64) s.text else none with
      | some n => advance; pure n
      | none => refuse place (misfit e "u64")
    | e => refuse place (misfit e "u64")

/-- A value that may be left out: nothing written, or null.  A text with the tag of null must
be null; otherwise the mapping around it does not fit. -/
def optional {α : Type} (decode : Place → Decoder α) (place : Place) : Decoder (Option α) :=
  node fun e => do
    match e with
    | .scalar s =>
      if s.style != .plain then some <$> decode place
      else
        match s.tag with
        | none => if s.isBare || isNull s.text then advance; pure none else some <$> decode place
        | some tag =>
          if tag != Tag.core "null" then some <$> decode place
          else if isNull s.text then advance; pure none
          else refuse (place.drop 1) (.invalidValue (.string s.text) "null".toList)
    | _ => some <$> decode place

/-- The items of a list up to its end. -/
def items {α : Type} (decode : Place → Decoder α) (place : Place) :
    (fuel : Nat) → (index : Nat) → Decoder (List α)
  | 0, _ => throw .malformed
  | fuel + 1, index => do
    match ← peek with
    | .sequenceEnd => advance; pure []
    | _ => do
      let a ← decode (.item index :: place)
      let as ← items decode place fuel (index + 1)
      pure (a :: as)

/-- A list; nothing written is the empty list. -/
def list {α : Type} (decode : Place → Decoder α) (place : Place) : Decoder (List α) :=
  node fun e => do
    match e with
    | .sequenceStart _ => advance; items decode place ((← read).size + 1) 0
    | e =>
      let bare := match e with
        | .scalar s => s.isBare
        | _ => false
      if bare then advance; pure [] else refuse place (misfit e "a sequence")

/-- The fields of a mapping up to its end, each of them known and none twice. -/
def fields {σ : Type} (known : List Text) (field : Text → Place → σ → Decoder σ) (place : Place) :
    (fuel : Nat) → (seen : List Text) → σ → Decoder σ
  | 0, _, _ => throw .malformed
  | fuel + 1, seen, acc => do
    match ← peek with
    | .mappingEnd => advance; pure acc
    | e => do
      let name ← text "field identifier" place
      if !known.contains name then refuse place (.unknownField name known)
      if seen.contains name then refuse place (.duplicateField name)
      let step := match e with
        | .scalar _ => Step.field name
        | _ => Step.unnamed
      let acc ← field name (step :: place) acc
      fields known field place fuel (name :: seen) acc

/-- A mapping with known fields; nothing written is the empty mapping. -/
def mapping {σ : Type} (expected : String) (known : List Text)
    (field : Text → Place → σ → Decoder σ) (start : σ) (place : Place) : Decoder σ :=
  node fun e => do
    match e with
    | .mappingStart _ => advance; fields known field place ((← read).size + 1) [] start
    | e =>
      let bare := match e with
        | .scalar s => s.isBare
        | _ => false
      if bare then advance; pure start else refuse place (misfit e expected)

/-- One of some names.  A local tag names the choice itself and leaves nothing to be written
behind it; a wrong name there is put down to the mapping around it, unless an alias leads
there. -/
def choice {α : Type} (choices : List (Text × α)) (place : Place) : Decoder α := do
  let aliased := match ← peek with
    | .alias _ => true
    | _ => false
  let pick (place : Place) (name : Text) : Decoder α :=
    match choices.lookup name with
    | some a => pure a
    | none => refuse place (.unknownVariant name (choices.map Prod.fst))
  let pickTagged (name : Text) : Decoder α :=
    pick (if aliased then place else place.drop 1) name
  let collection (tag : Option Tag) (e : Event) : Decoder α :=
    match tag.bind Tag.name? with
    | none => refuse place (misfit e "a YAML tag starting with '!'")
    | some name => do
      let _ ← pickTagged name
      refuse place (misfit e "unit")
  node fun e => do
    match e with
    | .scalar s =>
      match s.tag.bind Tag.name? with
      | none => advance; pick place s.text
      | some name => do
        let a ← pickTagged name
        if s.style == .plain && (s.text.isEmpty || isNull s.text) then advance; pure a
        else refuse place (.invalidValue (.string s.text) "null".toList)
    | .sequenceStart tag => collection tag e
    | .mappingStart tag => collection tag e
    | _ => throw .malformed

end Decoder

/-! ### The fields of a configuration -/

/-- The styles of a custom kind by name. -/
def entryStyles : List (Text × EntryStyle) :=
  [("heading".toList, .heading), ("checklist".toList, .checklist)]

/-- A custom kind as far as it has been read. -/
structure PartialKind where
  name : Option Text := none
  keywords : Option (List Text) := none
  marker : Option Text := none
  emptyMessage : Option Text := none
  style : EntryStyle := .heading

/-- The fields of a custom kind. -/
def kindFields : List Text :=
  ["name".toList, "keywords".toList, "marker".toList, "empty_message".toList, "style".toList]

/-- Decodes a field of a custom kind. -/
def kindField (name : Text) (place : Place) (k : PartialKind) : Decoder PartialKind := do
  if name == "name".toList then
    pure { k with name := some (← Decoder.text "a string" place) }
  else if name == "keywords".toList then
    pure { k with keywords := some (← Decoder.list (Decoder.text "a string") place) }
  else if name == "marker".toList then
    pure { k with marker := some (← Decoder.text "a string" place) }
  else if name == "empty_message".toList then
    pure { k with emptyMessage := ← Decoder.optional (Decoder.text "a string") place }
  else
    pure { k with style := ← Decoder.choice entryStyles place }

/-- Decodes a custom kind, which must have a name, keywords and a marker. -/
def decodeKind (place : Place) : Decoder CustomKind := do
  let k ← Decoder.mapping "struct CustomKindConfig" kindFields kindField {} place
  let missing {α : Type} (name : String) : Decoder α :=
    Decoder.refuse place (.missingField name.toList)
  match k.name, k.keywords, k.marker with
  | none, _, _ => missing "name"
  | _, none, _ => missing "keywords"
  | _, _, none => missing "marker"
  | some name, some keywords, some marker =>
    pure { name, keywords, marker, emptyMessage := k.emptyMessage, style := k.style }

/-- The fields of a configuration. -/
def configFields : List Text :=
  ["log_type".toList, "outfile".toList, "path".toList, "extension".toList, "template".toList,
   "max_file_bytes".toList, "custom_kinds".toList]

/-- Decodes a field of a configuration. -/
def configField (name : Text) (place : Place) (c : Config) : Decoder Config := do
  if name == "log_type".toList then
    pure { c with logType := ← Decoder.optional (Decoder.text "a string") place }
  else if name == "outfile".toList then
    pure { c with outfile := ← Decoder.optional (Decoder.text "path string") place }
  else if name == "path".toList then
    pure { c with path := ← Decoder.optional (Decoder.text "path string") place }
  else if name == "extension".toList then
    pure { c with extension := ← Decoder.optional (Decoder.text "a string") place }
  else if name == "template".toList then
    pure { c with template := ← Decoder.optional (Decoder.text "path string") place }
  else if name == "max_file_bytes".toList then
    pure { c with maxFileBytes := ← Decoder.optional Decoder.natural place }
  else
    pure { c with customKinds := ← Decoder.list decodeKind place }

namespace Config

/-- Decodes a configuration. -/
def decode (doc : Document) : Except ConfigFault Config :=
  if doc.events.isEmpty then
    if doc.sound then .ok {} else .error .malformed
  else
    let d : Decoding :=
      { events := doc.events, size := doc.events.length, anchors := doc.anchors }
    let walk := Decoder.mapping "struct LogConfig" configFields configField {} []
    match (walk.run d).run { rest := doc.events } with
    | .error fault => .error fault
    | .ok (config, _) => if doc.sound then .ok config else .error .malformed

/-- The configuration in a YAML text; white space alone makes no settings. -/
def ofText (text : Text) : Except ConfigFault Config :=
  if Text.isBlankText text then .ok {} else decode (Yaml.read text)

end Config

end AnnotationLog
