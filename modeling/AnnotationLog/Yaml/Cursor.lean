/-
Cursor: a place in a YAML text.

A cursor knows what is left of the text and how far it has come: bytes from the start, lines,
and characters in the line.  Only those three numbers decide which indentation holds and
whether a key may still end, so tokens themselves carry no positions.

A text is looked through block by block for characters that are not allowed.  One of them
spoils its whole block: the text is cut off where the block begins, and whatever has to look
beyond that place fails, while everything before it can still be read.
-/
import AnnotationLog.Text.Basic

namespace AnnotationLog.Yaml

/-- The characters that end a line. -/
def isBreak (c : Char) : Bool :=
  c == '\n' || c == '\r' || c == '\u0085' || c == '\u2028' || c == '\u2029'

/-- The characters that a YAML text may hold as they are. -/
def isAllowed (c : Char) : Bool :=
  let n := c.toNat
  n == 0x09 || n == 0x0A || n == 0x0D || (0x20 ≤ n && n ≤ 0x7E) || n == 0x85 ||
    (0xA0 ≤ n && n ≤ 0xD7FF) || (0xE000 ≤ n && n ≤ 0xFFFD) || 0x10000 ≤ n

/-- The byte order mark. -/
def byteOrderMark : Char := '\uFEFF'

/-- Whether a blank, a line end or the end of the text comes next. -/
def blankNext : Text → Bool
  | [] => true
  | c :: _ => Text.isBlank c || isBreak c

/-- Whether a line end or the end of the text comes next. -/
def breakNext : Text → Bool
  | [] => true
  | c :: _ => isBreak c

/-- Whether a line that separates documents comes next: three times the same mark and then a
blank or the end of the line. -/
def separatorNext : Text → Bool
  | '-' :: '-' :: '-' :: t => blankNext t
  | '.' :: '.' :: '.' :: t => blankNext t
  | _ => false

/-- The characters of a name. -/
def isNameChar (c : Char) : Bool :=
  Text.isDigit c || ('A' ≤ c && c ≤ 'Z') || ('a' ≤ c && c ≤ 'z') || c == '_' || c == '-'

/-! ### Blocks -/

/-- How many bytes a block has; a character that does not fit any more begins the next one. -/
def blockBytes : Nat := 16384

/-- The number of characters before the block that holds the first character that is not
allowed.  `room` bytes are free in the block that began at character `start`. -/
def cutAfter? : (room position start : Nat) → Text → Option Nat
  | _, _, _, [] => none
  | room, position, start, c :: cs =>
    let (room, start) :=
      if c.utf8Size ≤ room then (room, start) else (blockBytes, position)
    if isAllowed c then cutAfter? (room - c.utf8Size) (position + 1) start cs else some start

/-! ### Places -/

/-- A place in a text. -/
structure Cursor where
  rest : Text
  /-- The number of characters left, which bounds every loop from here on. -/
  left : Nat
  /-- Whether the text is cut off behind `rest`. -/
  cut : Bool := false
  /-- The number of bytes passed over. -/
  index : Nat := 0
  line : Nat := 0
  column : Nat := 0

namespace Cursor

/-- The place in front of a text. -/
def start (text : Text) : Cursor :=
  match cutAfter? blockBytes 0 0 text with
  | some n => { rest := text.take n, left := n, cut := true }
  | none => { rest := text, left := text.length }

/-- The same place, if the next `n` characters can be looked at or the text ends there. -/
def seeing? (c : Cursor) (n : Nat) : Option Cursor :=
  if c.cut && (c.rest.drop (n - 1)).isEmpty then none else some c

/-- Passes over characters of the line. -/
def skip (c : Cursor) (n : Nat) : Cursor :=
  let bytes := (c.rest.take n).foldl (fun bytes x => bytes + x.utf8Size) 0
  { c with
    rest := c.rest.drop n
    left := c.left - n
    index := c.index + bytes
    column := c.column + n }

/-- Passes over the characters of the line that have a property. -/
def skipWhile (c : Cursor) (p : Char → Bool) : Cursor :=
  c.skip (c.rest.takeWhile p).length

/-- Passes over everything up to the end of the line. -/
def skipToBreak (c : Cursor) : Cursor :=
  c.skipWhile (!isBreak ·)

/-- Passes over the end of a line, if one comes next, and gives it as text: a line feed for
all but the two Unicode separators, which stay. -/
def readBreak (c : Cursor) : Text × Cursor :=
  let next (n : Nat) : Cursor :=
    { c.skip n with line := c.line + 1, column := 0 }
  match c.rest with
  | '\r' :: '\n' :: _ => (['\n'], next 2)
  | b :: _ =>
    if b == '\u2028' || b == '\u2029' then ([b], next 1)
    else if isBreak b then (['\n'], next 1)
    else ([], c)
  | [] => ([], c)

/-- Passes over the end of a line. -/
def skipBreak (c : Cursor) : Cursor :=
  c.readBreak.2

/-- Passes over blanks and a comment, up to the end of the line; fails if anything else is
there. -/
def finishLine? (c : Cursor) : Option Cursor := do
  let c := c.skipWhile Text.isBlank
  let c := if c.rest.head? == some '#' then c.skipToBreak else c
  let c ← c.seeing? 1
  if breakNext c.rest then (c.seeing? 2).map skipBreak else none

/-- Reads a name, which may be empty, and passes over it. -/
def readName? (c : Cursor) : Option (Text × Cursor) :=
  ((c.skipWhile isNameChar).seeing? 1).map (c.rest.takeWhile isNameChar, ·)

end Cursor

end AnnotationLog.Yaml
