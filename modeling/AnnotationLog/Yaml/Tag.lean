/-
Tags: names that say what a node is meant to be.

A tag is a sequence of bytes without a zero byte.  It is written out between angle brackets,
or behind a handle that stands for the front of it; a byte that cannot stand for itself is
written as a percent sign and two hexadecimal digits, and a zero byte ends the tag.
-/
import AnnotationLog.Text.Utf8
import AnnotationLog.Yaml.Scalar

namespace AnnotationLog.Yaml

/-- A tag. -/
abbrev Tag := Bytes

namespace Tag

/-- The byte of the exclamation mark. -/
def bang : UInt8 := 0x21

/-- The tag of a text. -/
def ofText (t : Text) : Tag :=
  Utf8.encode t

/-- A tag of the core schema. -/
def core (name : String) : Tag :=
  ofText ("tag:yaml.org,2002:".toList ++ name.toList)

/-- Whether a tag begins with an exclamation mark. -/
def isLocal (tag : Tag) : Bool :=
  tag.head? == some bang

/-- The name that a local tag gives, if its bytes are a text: what stands behind the exclamation
mark, or the mark alone. -/
def name? (tag : Tag) : Option Text :=
  if isLocal tag then
    let name := if tag.length = 1 then tag else tag.drop 1
    (Utf8.decode name).toOption
  else none

end Tag

/-! ### Reading tags -/

/-- The characters that stand for themselves in a tag; three more are allowed between angle
brackets. -/
def isTagChar (verbatim : Bool) (c : Char) : Bool :=
  isNameChar c || ";/?:@&=+$.%!~*()'".toList.contains c ||
    (verbatim && (c == ',' || c == '[' || c == ']'))

/-- The value of a byte written as a percent sign and two hexadecimal digits. -/
def percentByte? : Text → Option Nat
  | '%' :: t => hexValue? 2 0 t
  | _ => none

/-- How many bytes continue the character that a byte begins. -/
def continuing? (n : Nat) : Option Nat :=
  if n < 0x80 then some 0
  else if n < 0xC0 then none
  else if n < 0xE0 then some 1
  else if n < 0xF0 then some 2
  else if n < 0xF8 then some 3
  else none

/-- Reads `count` bytes that continue a character, in front of those read before. -/
def readContinuing? : (count : Nat) → (bytes : Bytes) → Cursor → Option (Bytes × Cursor)
  | 0, bytes, c => some (bytes, c)
  | count + 1, bytes, c =>
    match percentByte? c.rest with
    | some n =>
      if 0x80 ≤ n && n < 0xC0 then readContinuing? count (UInt8.ofNat n :: bytes) (c.skip 3)
      else none
    | none => none

/-- Reads the bytes of a tag, the last one first, in front of those read before. -/
def readTagBytes? (verbatim : Bool) :
    (fuel : Nat) → (bytes : Bytes) → Cursor → Option (Bytes × Cursor)
  | 0, bytes, c => some (bytes, c)
  | fuel + 1, bytes, c => do
    let c ← c.seeing? 1
    match c.rest with
    | [] => some (bytes, c)
    | x :: _ =>
      if !isTagChar verbatim x then some (bytes, c)
      else if x == '%' then
        let n ← percentByte? c.rest
        let count ← continuing? n
        let (bytes, c) ← readContinuing? count (UInt8.ofNat n :: bytes) (c.skip 3)
        readTagBytes? verbatim fuel bytes c
      else readTagBytes? verbatim fuel (UInt8.ofNat x.toNat :: bytes) (c.skip 1)

/-- Reads a tag, or the end of one whose beginning has been read as a handle; there must be
something. -/
def readTagText? (verbatim : Bool) (handle : Text) (c : Cursor) : Option (Tag × Cursor) := do
  let (bytes, c) ← readTagBytes? verbatim (c.left + 1) [] c
  if handle.isEmpty && bytes.isEmpty then none
  else some ((Utf8.encode (handle.drop 1) ++ bytes.reverse).takeWhile (· != 0), c)

/-- Reads a handle: an exclamation mark, a name and perhaps another exclamation mark. -/
def readHandle? (c : Cursor) : Option (Text × Cursor) := do
  if c.rest.head? != some '!' then none
  else
    let (name, c) ← (c.skip 1).readName?
    if c.rest.head? == some '!' then some ('!' :: name ++ ['!'], c.skip 1)
    else some ('!' :: name, c)

/-- Reads a tag as a handle, which may be empty, and what stands behind it: one between angle
brackets, one behind a handle, or one behind a single exclamation mark, which may also stand
alone. -/
def readTag? (inFlow : Bool) (c : Cursor) : Option (Text × Tag × Cursor) := do
  let (handle, tag, c) ←
    if (c.rest.drop 1).head? == some '<' then do
      let (tag, c) ← readTagText? true [] (c.skip 2)
      if c.rest.head? == some '>' then some ([], tag, c.skip 1) else none
    else do
      let (handle, c) ← readHandle? c
      if 1 < handle.length && handle.getLast? == some '!' then
        let (tag, c) ← readTagText? false [] c
        some (handle, tag, c)
      else
        let (tag, c) ← readTagText? false handle c
        if tag.isEmpty then some ([], [Tag.bang], c) else some (['!'], tag, c)
  let c ← c.seeing? 1
  if blankNext c.rest || (inFlow && c.rest.head? == some ',') then some (handle, tag, c) else none

end AnnotationLog.Yaml
