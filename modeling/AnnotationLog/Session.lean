/-
Session: what was found so far, and how it was last written.

Every registered kind has a slot, by its position in the registry.  A slot keeps the findings
of the kind in the order in which they came in and the entries that the last finalisation
wrote for them; findings are numbered from 1 when they are written, not when they are found.

The slots stand side by side in memory, and so there is a last position that can have one.
The kinds of a registry are never so many; a caller of `push` may ask for any position.
That memory may run out long before is left out.
-/
import AnnotationLog.Registry

namespace AnnotationLog

/-- An annotation found in a file. -/
structure Finding where
  path : Path
  fields : Fields
  deriving DecidableEq, Repr

/-- The findings of one kind and their entries. -/
structure Slot where
  matched : List Finding := []
  rendered : List Text := []
  deriving DecidableEq, Repr

/-- The slots of all kinds. -/
structure Session where
  slots : List Slot := []
  deriving DecidableEq, Repr

/-- The entries of some findings, numbered from 1. -/
def Kind.renderAll (k : Kind) (findings : List Finding) : List Text :=
  (findings.zipIdx 1).map fun (f, number) => k.render number f.path f.fields

namespace Session

/-- The session without findings. -/
def empty : Session := {}

/-- The findings of the kind at a position. -/
def matched (s : Session) (i : Nat) : List Finding :=
  ((s.slots[i]?).map Slot.matched).getD []

/-- The entries of the kind at a position. -/
def rendered (s : Session) (i : Nat) : List Text :=
  ((s.slots[i]?).map Slot.rendered).getD []

/-- The number of findings of all kinds. -/
def total (s : Session) : Nat :=
  (s.slots.flatMap Slot.matched).length

/-- Makes sure that there are at least `n` slots. -/
def grow (s : Session) (n : Nat) : Session where
  slots := s.slots ++ List.replicate (n - s.slots.length) {}

/-- Makes sure that every registered kind has a slot. -/
def sync (s : Session) (r : Registry) : Session :=
  s.grow r.size

/-- The session of a registry before anything is found. -/
def forRegistry (r : Registry) : Session :=
  empty.sync r

/-- Adds a finding to the slot at a position, which is made if it is not there. -/
def add (s : Session) (i : Nat) (f : Finding) : Session where
  slots := (s.grow (i + 1)).slots.modify i fun slot => { slot with matched := slot.matched ++ [f] }

/-- The number of slots that can stand side by side: a slot takes 48 bytes, and nothing in memory
takes more than fit into a signed word of 64 bits. -/
def maxSlots : Nat :=
  9223372036854775807 / 48

/-- Adds a finding of the kind at a position, or ends the program when no slot can be there. -/
def push (s : Session) (i : Nat) (f : Finding) : Option Session :=
  if i < maxSlots then some (s.add i f) else none

/-- Adds findings of a registered kind, given by its position. -/
def addAll (s : Session) (i : Nat) (fs : List Finding) : Session :=
  fs.foldl (fun s f => s.add i f) s

/-- Adds what every registered kind finds in the text of a file. -/
def scan (s : Session) (r : Registry) (path : Path) (text : Text) : Session :=
  r.kinds.zipIdx.foldl
    (fun s (k, i) => s.addAll i ((k.find text).map fun fields => { path, fields })) s

/-- Writes the entries of the slots that belong to some kinds. -/
def renderSlots : List Kind → List Slot → List Slot
  | k :: ks, slot :: slots =>
    { slot with rendered := k.renderAll slot.matched } :: renderSlots ks slots
  | _, slots => slots

/-- Writes the entries of every registered kind anew. -/
def finalize (s : Session) (r : Registry) : Session where
  slots := renderSlots r.kinds (s.sync r).slots

end Session

end AnnotationLog
