/-
Text: sequences of characters and the few operations everything else is built from.

Source files, titles, paths, templates and messages are all `Text`.  Recognition works by
peeling characters off the front, so text is a list and the operations here say what is left:
`after?` removes a known beginning, `replaceAll` runs over a text and exchanges one piece for
another, `collapseSpaces` keeps one space of every run.
-/

namespace AnnotationLog

/-- Text is a sequence of characters. -/
abbrev Text := List Char

namespace Text

/-- The apostrophe, which cannot stand between apostrophes. -/
abbrev apostrophe : Char := '\x27'

/-- A blank separates words inside a line: a space or a tab. -/
def isBlank (c : Char) : Bool :=
  c == ' ' || c == '\t'

/-- A decimal digit, `0` to `9`. -/
def isDigit (c : Char) : Bool :=
  '0' ≤ c && c ≤ '9'

/-- What follows `start` in a text that begins with it. -/
def after? : (start : Text) → Text → Option Text
  | [], t => some t
  | _ :: _, [] => none
  | s :: start, c :: t => if s = c then after? start t else none

/-- Whether a text begins with `start`. -/
def startsWith (start t : Text) : Bool :=
  (after? start t).isSome

/-- Whether a text ends with `ending`. -/
def endsWith (ending t : Text) : Bool :=
  startsWith ending.reverse t.reverse

/-- Exchanges every occurrence of `piece` for `new`, from left to right and without looking
again at what was put in.  No text is an occurrence of the empty piece. -/
def replaceAll (piece new : Text) : Text → Text
  | [] => []
  | c :: cs =>
    if !piece.isEmpty && startsWith piece (c :: cs) then
      new ++ replaceAll piece new (cs.drop (piece.length - 1))
    else
      c :: replaceAll piece new cs
termination_by t => t.length
decreasing_by all_goals grind

/-- Keeps the last space of every run of spaces. -/
def collapseSpaces : Text → Text
  | [] => []
  | c :: cs =>
    if c == ' ' && cs.head? == some ' ' then collapseSpaces cs else c :: collapseSpaces cs

/-- A text between backquotes. -/
def backquoted (t : Text) : Text :=
  "`".toList ++ t ++ "`".toList

/-- The decimal digits of a number. -/
def ofNat (n : Nat) : Text :=
  Nat.toDigits 10 n

/-- A number in decimal, with a minus sign when negative. -/
def ofInt (n : Int) : Text :=
  if n < 0 then '-' :: ofNat n.natAbs else ofNat n.natAbs

/-- A number in decimal, filled up with leading zeros to `width` digits. -/
def ofNatPadded (width n : Nat) : Text :=
  let digits := ofNat n
  List.replicate (width - digits.length) '0' ++ digits

/-- Pieces put one after another with `separator` between them. -/
def join (separator : Text) (pieces : List Text) : Text :=
  separator.intercalate pieces

/-- Lines put one under another: a line feed stands between any two of them. -/
def joinLines (lines : List Text) : Text :=
  join ['\n'] lines

/-- Order of texts by code point, which is also the order of their UTF-8 bytes. -/
def le : Text → Text → Bool
  | [], _ => true
  | _ :: _, [] => false
  | a :: s, b :: t => if a = b then le s t else a < b

end Text

end AnnotationLog
