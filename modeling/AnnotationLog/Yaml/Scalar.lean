/-
Scalars: the five ways to write a text in YAML.

A plain scalar ends where something else could begin.  A quoted one ends at its quote, and in
double quotes a backslash starts an escape.  Both may go on over several lines, which are
folded: one line end is a space, and of several the first is dropped.  A block scalar is the
indented lines under its header, taken as they are or folded.
-/
import AnnotationLog.Yaml.Cursor

namespace AnnotationLog.Yaml

/-- How a scalar was written. -/
inductive ScalarStyle where
  | plain
  | singleQuoted
  | doubleQuoted
  | literal
  | folded
  deriving DecidableEq, Repr

/-- The text of some pieces, of which the last comes first. -/
def joined (pieces : List Text) : Text :=
  pieces.reverse.flatten

/-! ### White space inside a scalar -/

/-- Blanks and line ends inside a scalar. -/
structure Gap where
  /-- The blanks before the first line end, last one first. -/
  blanks : Text := []
  /-- The line ends, last one first. -/
  breaks : Text := []
  /-- Whether an escaped line end came first, which itself leaves nothing. -/
  escaped : Bool := false

namespace Gap

/-- Whether a line has ended in the gap. -/
def hasBreak (g : Gap) : Bool :=
  g.escaped || !g.breaks.isEmpty

/-- What a gap stands for in the text of a scalar. -/
def text (g : Gap) : Text :=
  if g.escaped then g.breaks.reverse
  else
    match g.breaks.reverse with
    | [] => g.blanks.reverse
    | ['\n'] => [' ']
    | '\n' :: more => more
    | breaks => breaks

/-- Reads blanks and line ends.  With a least column given, a tab before that column fails
once a line has ended. -/
def read? (least : Option Int) : (fuel : Nat) → Gap → Cursor → Option (Gap × Cursor)
  | 0, g, c => some (g, c)
  | fuel + 1, g, c => do
    let c ← c.seeing? 1
    match c.rest with
    | [] => some (g, c)
    | x :: _ =>
      if Text.isBlank x then
        if g.hasBreak then
          if x == '\t' && least.any fun l => (c.column : Int) < l then none
          else read? least fuel g (c.skip 1)
        else read? least fuel { g with blanks := x :: g.blanks } (c.skip 1)
      else if isBreak x then
        let (b, c) := (← c.seeing? 2).readBreak
        read? least fuel { g with breaks := b ++ g.breaks } c
      else some (g, c)

end Gap

/-! ### Plain scalars -/

/-- The characters that structure a collection in brackets. -/
def isFlowIndicator (c : Char) : Bool :=
  c == ',' || c == '[' || c == ']' || c == '{' || c == '}'

/-- The characters of a plain scalar up to a blank, a line end, a colon that ends a key or,
inside brackets, an indicator, added to those read before, the last one first.  Inside
brackets a colon must not touch an indicator. -/
def plainRun? (inFlow : Bool) (run : Text) : Text → Option Text
  | [] => some run
  | c :: cs =>
    if Text.isBlank c || isBreak c then some run
    else if inFlow && c == ':' && cs.head?.any fun d => isFlowIndicator d || d == '?' then none
    else if c == ':' && blankNext cs then some run
    else if inFlow && isFlowIndicator c then some run
    else plainRun? inFlow (c :: run) cs

/-- Reads a plain scalar behind the pieces of it that have been read, the last one first, and
the gap behind those.  Gives its text, whether a line ended behind it, and the place behind the
white space that follows it. -/
def readPlain? (inFlow : Bool) (indent : Int) :
    (fuel : Nat) → (pieces : List Text) → Gap → Cursor → Option (Text × Bool × Cursor)
  | 0, pieces, g, c => some (joined pieces, g.hasBreak, c)
  | fuel + 1, pieces, g, c => do
    let c ← c.seeing? 4
    if (c.column == 0 && separatorNext c.rest) || c.rest.head? == some '#' then
      some (joined pieces, g.hasBreak, c)
    else
      match ← plainRun? inFlow [] c.rest with
      | [] => some (joined pieces, g.hasBreak, c)
      | run => do
        let pieces := run.reverse :: g.text :: pieces
        let c ← (c.skip run.length).seeing? 2
        if c.rest.isEmpty || !blankNext c.rest then some (joined pieces, false, c)
        else
          let (g, c) ← Gap.read? (some (indent + 1)) (c.left + 1) {} c
          if !inFlow && (c.column : Int) < indent + 1 then some (joined pieces, g.hasBreak, c)
          else readPlain? inFlow indent fuel pieces g c

/-! ### Quoted scalars -/

/-- The value of a hexadecimal digit. -/
def hexDigit? (c : Char) : Option Nat :=
  if Text.isDigit c then some (c.toNat - '0'.toNat)
  else if 'a' ≤ c && c ≤ 'f' then some (c.toNat - 'a'.toNat + 10)
  else if 'A' ≤ c && c ≤ 'F' then some (c.toNat - 'A'.toNat + 10)
  else none

/-- The value of exactly `count` hexadecimal digits at the front of a text. -/
def hexValue? : (count : Nat) → (value : Nat) → Text → Option Nat
  | 0, value, _ => some value
  | _ + 1, _, [] => none
  | count + 1, value, c :: cs =>
    match hexDigit? c with
    | some d => hexValue? count (value * 16 + d) cs
    | none => none

/-- The character of an escape given by one character. -/
def simpleEscape? (c : Char) : Option Char :=
  match c with
  | '0' => some '\x00'
  | 'a' => some '\x07'
  | 'b' => some '\x08'
  | 't' => some '\t'
  | '\t' => some '\t'
  | 'n' => some '\n'
  | 'v' => some '\x0b'
  | 'f' => some '\x0c'
  | 'r' => some '\r'
  | 'e' => some '\x1b'
  | ' ' => some ' '
  | '"' => some '"'
  | '/' => some '/'
  | '\\' => some '\\'
  | 'N' => some '\u0085'
  | '_' => some '\u00A0'
  | 'L' => some '\u2028'
  | 'P' => some '\u2029'
  | _ => none

/-- The number of hexadecimal digits behind an escape that gives a code point. -/
def escapeDigits? (c : Char) : Option Nat :=
  match c with
  | 'x' => some 2
  | 'u' => some 4
  | 'U' => some 8
  | _ => none

/-- The character that an escape stands for and the length of the escape, the backslash
included; the text begins behind the backslash. -/
def escape? : Text → Option (Char × Nat)
  | [] => none
  | c :: cs =>
    match simpleEscape? c with
    | some x => some (x, 2)
    | none => do
      let count ← escapeDigits? c
      let n ← hexValue? count 0 cs
      if n.isValidChar then some (Char.ofNat n, 2 + count) else none

/-- The quote of a style. -/
def quoteMark (double : Bool) : Char :=
  if double then '"' else Text.apostrophe

/-- Reads the characters of a quoted scalar up to a blank, a line end or the quote, the last one
first.  Gives whether it stopped behind an escaped line end. -/
def quotedRun? (double : Bool) :
    (fuel : Nat) → (run : Text) → Cursor → Option (Text × Bool × Cursor)
  | 0, run, c => some (run, false, c)
  | fuel + 1, run, c => do
    let c ← c.seeing? 2
    match c.rest with
    | [] => some (run, false, c)
    | x :: more =>
      if Text.isBlank x || isBreak x then some (run, false, c)
      else if !double && x == quoteMark false && more.head? == some x then
        quotedRun? double fuel (x :: run) (c.skip 2)
      else if x == quoteMark double then some (run, false, c)
      else if double && x == '\\' then
        if more.head?.any isBreak then
          let c ← c.seeing? 3
          let c ← (c.skip 1).skipBreak.seeing? 1
          some (run, true, c)
        else
          match escape? more with
          | some (y, length) => quotedRun? double fuel (y :: run) (c.skip length)
          | none => none
      else quotedRun? double fuel (x :: run) (c.skip 1)

/-- Reads a quoted scalar from behind its first quote, and passes over its last one.  The pieces
of it that have been read are given, the last one first. -/
def readQuoted? (double : Bool) :
    (fuel : Nat) → (pieces : List Text) → Cursor → Option (Text × Cursor)
  | 0, _, _ => none
  | fuel + 1, pieces, c => do
    let c ← c.seeing? 4
    if (c.column == 0 && separatorNext c.rest) || c.rest.isEmpty then none
    else
      let (run, escaped, c) ← quotedRun? double (c.left + 1) [] c
      let pieces := run.reverse :: pieces
      if c.rest.head? == some (quoteMark double) then some (joined pieces, c.skip 1)
      else
        let (g, c) ← Gap.read? none (c.left + 1) { escaped } c
        readQuoted? double fuel (g.text :: pieces) c

/-! ### Block scalars -/

/-- What becomes of the line ends behind a block scalar. -/
inductive Chomping where
  | clip
  | strip
  | keep
  deriving DecidableEq, Repr

/-- Reads a chomping mark. -/
def chomping? : Text → Option Chomping
  | '+' :: _ => some .keep
  | '-' :: _ => some .strip
  | _ => none

/-- Reads an indentation number, which is not 0. -/
def increment? : Text → Option Nat
  | c :: _ => if Text.isDigit c then some (c.toNat - '0'.toNat) else none
  | [] => none

/-- Reads the header of a block scalar behind its first mark: a chomping mark and an
indentation number in either order, then nothing but a comment.  No number is given as 0. -/
def blockHeader? (c : Cursor) : Option (Chomping × Nat × Cursor) := do
  let (chomp, inc, c) :=
    match chomping? c.rest with
    | some chomp =>
      let c := c.skip 1
      match increment? c.rest with
      | some inc => (chomp, some inc, c.skip 1)
      | none => (chomp, none, c)
    | none =>
      match increment? c.rest with
      | some inc =>
        let c := c.skip 1
        match chomping? c.rest with
        | some chomp => (chomp, some inc, c.skip 1)
        | none => (.clip, some inc, c)
      | none => (.clip, none, c)
  if inc == some 0 then none
  let c ← c.finishLine?
  some (chomp, inc.getD 0, c)

/-- Reads the spaces of the indentation and empty lines; the ends of those are given, the last
one first.  As long as the indentation is not known, it is 0 and the widest run of spaces is
kept track of. -/
def blockBreaks? (indent : Nat) :
    (fuel : Nat) → (widest : Nat) → (breaks : Text) → Cursor → Option (Nat × Text × Cursor)
  | 0, widest, breaks, c => some (widest, breaks, c)
  | fuel + 1, widest, breaks, c => do
    let spaces := (c.rest.takeWhile (· == ' ')).length
    let c ← (c.skip (if indent = 0 then spaces else min spaces (indent - c.column))).seeing? 1
    let widest := max widest c.column
    if (indent = 0 ∨ c.column < indent) ∧ c.rest.head? = some '\t' then none
    else if c.rest.head?.any isBreak then
      let (b, c) := (← c.seeing? 2).readBreak
      blockBreaks? indent fuel widest (b ++ breaks) c
    else some (widest, breaks, c)

/-- A block scalar as far as it has been read. -/
structure BlockText where
  /-- The pieces of its text, last one first. -/
  pieces : List Text := []
  /-- The end of its last line. -/
  lead : Text := []
  /-- The ends of the empty lines behind that, last one first. -/
  breaks : Text
  /-- Whether its last line began with a blank. -/
  blankLead : Bool := false

/-- Reads the lines of a block scalar from the front of one of them.  A line end is folded only
between two lines that do not begin with a blank. -/
def blockLines? (literal : Bool) (indent : Nat) :
    (fuel : Nat) → BlockText → Cursor → Option (BlockText × Cursor)
  | 0, t, c => some (t, c)
  | fuel + 1, t, c => do
    if c.column != indent || c.rest.isEmpty then some (t, c)
    else
      let blank := c.rest.head?.any Text.isBlank
      let joint :=
        if !literal && t.lead == ['\n'] && !t.blankLead && !blank then
          if t.breaks.isEmpty then [' '] else []
        else t.lead
      let line := c.rest.takeWhile (!isBreak ·)
      let (lead, c) := (← (c.skip line.length).seeing? 2).readBreak
      let (_, breaks, c) ← blockBreaks? indent (c.left + 1) 0 [] c
      let pieces := line :: t.breaks.reverse :: joint :: t.pieces
      blockLines? literal indent fuel { pieces, lead, breaks, blankLead := blank } c

/-- Reads a block scalar from behind its first mark, in a block of the given indentation. -/
def readBlock? (literal : Bool) (parent : Int) (c : Cursor) : Option (Text × Cursor) := do
  let (chomp, inc, c) ← blockHeader? c
  let given := if inc = 0 then 0 else (max parent 0).toNat + inc
  let (widest, breaks, c) ← blockBreaks? given (c.left + 1) 0 [] c
  let indent := if given = 0 then max (max widest (parent + 1).toNat) 1 else given
  let (t, c) ← blockLines? literal indent (c.left + 1) { breaks } c
  let tail := match chomp with
    | .strip => []
    | .clip => t.lead
    | .keep => t.lead ++ t.breaks.reverse
  some (joined t.pieces ++ tail, c)

end AnnotationLog.Yaml
