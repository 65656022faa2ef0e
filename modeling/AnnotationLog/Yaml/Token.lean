/-
Tokens: a YAML text as marks and scalars.

Indentation becomes tokens of its own: a deeper column opens a block collection, a shallower
one closes it.  Whether a scalar is a key shows only at the colon behind it, so a place where a
key may have begun is remembered, and the tokens from there on are held back until the colon
comes or can no longer come.  A key is at most one line and 1024 bytes long.

`tokens` gives the tokens that can be read before the text first breaks a rule; the last of
them is `streamEnd` exactly when the text breaks none.
-/
import AnnotationLog.Yaml.Tag

namespace AnnotationLog.Yaml

/-- A token. -/
inductive Token where
  | streamEnd
  | version (major minor : Nat)
  | tagDirective (handle : Text) (lead : Tag)
  | documentStart
  | documentEnd
  | blockSequenceStart
  | blockMappingStart
  | blockEnd
  | flowSequenceStart
  | flowSequenceEnd
  | flowMappingStart
  | flowMappingEnd
  | blockEntry
  | flowEntry
  | key
  | value
  | alias (name : Text)
  | anchor (name : Text)
  | tag (handle : Text) (suffix : Tag)
  | scalar (text : Text) (style : ScalarStyle)
  deriving DecidableEq, Repr

/-! ### Anchors and directives -/

/-- Reads the name of an anchor or an alias, from behind its mark. -/
def readAnchor? (c : Cursor) : Option (Text × Cursor) := do
  let (name, c) ← c.readName?
  let ends (x : Char) : Bool := x == '}' || "?:,]%@`".toList.contains x
  let ended := blankNext c.rest || c.rest.head?.any ends
  if name.isEmpty || !ended then none else some (name, c)

/-- Passes over blanks. -/
def skipBlanks? (c : Cursor) : Option Cursor :=
  (c.skipWhile Text.isBlank).seeing? 1

/-- Reads a number of one to nine digits. -/
def readNumber? (c : Cursor) : Option (Nat × Cursor) := do
  let digits := c.rest.takeWhile Text.isDigit
  let c ← (c.skip digits.length).seeing? 1
  if digits.isEmpty || 9 < digits.length then none
  else some (digits.foldl (fun n d => 10 * n + (d.toNat - '0'.toNat)) 0, c)

/-- Reads a directive from behind its percent sign to the end of its line. -/
def readDirective? (c : Cursor) : Option (Token × Cursor) := do
  let (name, c) ← c.readName?
  if name.isEmpty || !blankNext c.rest then none
  let c ← skipBlanks? c
  let (token, c) ←
    if name == "YAML".toList then do
      let (major, c) ← readNumber? c
      if c.rest.head? != some '.' then none
      let (minor, c) ← readNumber? (c.skip 1)
      some (Token.version major minor, c)
    else if name == "TAG".toList then do
      let (handle, c) ← readHandle? c
      let c ← c.seeing? 1
      if handle.getLast? != some '!' || !(c.rest.head?.any Text.isBlank) then none
      let (lead, c) ← readTagText? true [] (← skipBlanks? c)
      if !blankNext c.rest then none
      some (Token.tagDirective handle lead, c)
    else none
  let c ← c.finishLine?
  some (token, c)

/-! ### Reading tokens one after the other -/

/-- A place where a key may have begun. -/
structure PossibleKey where
  /-- The number of brackets open around it. -/
  level : Nat
  /-- The number of the first token of the key. -/
  token : Nat
  /-- Whether nothing but a key can stand there. -/
  required : Bool
  index : Nat
  line : Nat
  column : Nat

/-- The state of reading tokens. -/
structure Lexer where
  cursor : Cursor
  /-- The number of open brackets. -/
  level : Nat := 0
  /-- The places where a key may have begun, at most one for every level, innermost first. -/
  keys : List PossibleKey := []
  /-- The column of the innermost block collection, or -1. -/
  indent : Int := -1
  /-- The columns of the block collections around it. -/
  outer : List Int := []
  keyAllowed : Bool := true
  /-- The number of tokens handed on so far. -/
  handed : Nat := 0
  /-- The tokens held back. -/
  held : List Token := []

namespace Lexer

/-- Whether a bracket is open. -/
def inFlow (s : Lexer) : Bool :=
  0 < s.level

/-- The next characters. -/
def next (s : Lexer) : Text :=
  s.cursor.rest

/-- Adds a token at the end. -/
def push (s : Lexer) (t : Token) : Lexer :=
  { s with held := s.held ++ [t] }

/-- Adds a token in front of the token with a number. -/
def insert (s : Lexer) (number : Nat) (t : Token) : Lexer :=
  let i := number - s.handed
  { s with held := s.held.take i ++ t :: s.held.drop i }

/-- Moves the cursor. -/
def moveTo (s : Lexer) (c : Cursor) : Lexer :=
  { s with cursor := c }

/-- Adds a token for the next characters and passes over them. -/
def mark (s : Lexer) (t : Token) (length : Nat) : Lexer :=
  (s.push t).moveTo (s.cursor.skip length)

/-- Sets whether a key may begin here. -/
def allowKey (s : Lexer) (allowed : Bool) : Lexer :=
  { s with keyAllowed := allowed }

/-- The possible key of the innermost level and those of the others. -/
def splitKeys (s : Lexer) : Option PossibleKey × List PossibleKey :=
  match s.keys with
  | k :: keys => if k.level = s.level then (some k, keys) else (none, k :: keys)
  | [] => (none, [])

/-- Gives up the possible key of the innermost level; a required one cannot be given up. -/
def dropKey? (s : Lexer) : Option Lexer :=
  match s.splitKeys with
  | (some k, keys) => if k.required then none else some { s with keys }
  | (none, _) => some s

/-- Remembers that a key may begin here. -/
def saveKey? (s : Lexer) : Option Lexer :=
  if s.keyAllowed then do
    let s ← s.dropKey?
    let k : PossibleKey := {
      level := s.level
      token := s.handed + s.held.length
      required := !s.inFlow && s.indent == s.cursor.column
      index := s.cursor.index
      line := s.cursor.line
      column := s.cursor.column }
    some { s with keys := k :: s.keys }
  else some s

/-- Gives up every possible key that has become too long or left its line. -/
def dropStale? (s : Lexer) : Option Lexer :=
  let stale (k : PossibleKey) : Bool :=
    k.line < s.cursor.line || k.index + 1024 < s.cursor.index
  if s.keys.any fun k => stale k && k.required then none
  else some { s with keys := s.keys.filter (!stale ·) }

/-- Opens a block collection at a column, in front of the token with a number or at the end. -/
def roll (s : Lexer) (column : Nat) (number : Option Nat) (t : Token) : Lexer :=
  if s.inFlow || (column : Int) ≤ s.indent then s
  else
    let s := match number with
      | some n => s.insert n t
      | none => s.push t
    { s with outer := s.indent :: s.outer, indent := column }

/-- Closes the block collections that lie deeper than a column. -/
def unroll (s : Lexer) (column : Int) : Lexer :=
  if s.inFlow then s else go s.outer s
where
  /-- Closes one collection after the other; the outermost level is never closed. -/
  go : List Int → Lexer → Lexer
    | [], s => s
    | i :: is, s =>
      if column < s.indent then go is { (s.push .blockEnd) with indent := i, outer := is } else s

/-- Passes over blanks, comments and line ends, and over a byte order mark at the front of a
line.  Outside of brackets a new line may begin a key, and a tab is no blank where a key may
begin. -/
def skipSpace? (fuel : Nat) (s : Lexer) : Option Lexer :=
  match fuel with
  | 0 => some s
  | fuel + 1 => do
    let c := s.cursor
    let c := if c.column == 0 && c.rest.head? == some byteOrderMark then c.skip 1 else c
    let c := c.skipWhile fun x => x == ' ' || ((s.inFlow || !s.keyAllowed) && x == '\t')
    let c := if c.rest.head? == some '#' then c.skipToBreak else c
    let c ← c.seeing? 1
    if c.rest.head?.any isBreak then
      let c ← c.seeing? 2
      skipSpace? fuel { s with cursor := c.skipBreak, keyAllowed := s.keyAllowed || !s.inFlow }
    else some (s.moveTo c)

/-- Closes everything that is open at the end of a document. -/
def closeAll? (s : Lexer) : Option Lexer :=
  (s.unroll (-1)).dropKey?.map (·.allowKey false)

/-- The end of the text. -/
def streamEnd? (s : Lexer) : Option Lexer := do
  let c := s.cursor
  let s := if c.column == 0 then s else s.moveTo { c with line := c.line + 1, column := 0 }
  let s ← s.closeAll?
  some (s.push .streamEnd)

/-- A bracket that opens. -/
def openFlow? (s : Lexer) (t : Token) : Option Lexer := do
  let s ← s.saveKey?
  some ((({ s with level := s.level + 1 } : Lexer).allowKey true).mark t 1)

/-- A bracket that closes. -/
def closeFlow? (s : Lexer) (t : Token) : Option Lexer := do
  let s ← s.dropKey?
  some ((({ s with level := s.level - 1 } : Lexer).allowKey false).mark t 1)

/-- A comma between the items of a flow collection. -/
def flowEntry? (s : Lexer) : Option Lexer := do
  let s ← s.dropKey?
  some ((s.allowKey true).mark .flowEntry 1)

/-- A dash in front of an item. -/
def blockEntry? (s : Lexer) : Option Lexer := do
  if !s.inFlow && !s.keyAllowed then none
  let s ← (s.roll s.cursor.column none .blockSequenceStart).dropKey?
  some ((s.allowKey true).mark .blockEntry 1)

/-- A question mark in front of a key. -/
def explicitKey? (s : Lexer) : Option Lexer := do
  if !s.inFlow && !s.keyAllowed then none
  let s ← (s.roll s.cursor.column none .blockMappingStart).dropKey?
  some ((s.allowKey (!s.inFlow)).mark .key 1)

/-- A colon: it ends the key that may have begun, or follows a key marked as one. -/
def value? (s : Lexer) : Option Lexer :=
  match s.splitKeys with
  | (some k, keys) =>
    let s := (s.insert k.token .key).roll k.column (some k.token) .blockMappingStart
    some ((({ s with keys } : Lexer).allowKey false).mark .value 1)
  | (none, _) =>
    if !s.inFlow && !s.keyAllowed then none
    else
      let s := s.roll s.cursor.column none .blockMappingStart
      some ((s.allowKey (!s.inFlow)).mark .value 1)

/-- A line that separates documents. -/
def separator? (s : Lexer) (t : Token) : Option Lexer :=
  s.closeAll?.map (·.mark t 3)

/-- A directive. -/
def directive? (s : Lexer) : Option Lexer := do
  let s ← s.closeAll?
  let (t, c) ← readDirective? (s.cursor.skip 1)
  some ((s.push t).moveTo c)

/-- Something that may be a key and is read as one token. -/
def keyLike? (s : Lexer) (read : Cursor → Option (Token × Cursor)) : Option Lexer := do
  let s ← s.saveKey?
  let s := s.allowKey false
  let (t, c) ← read s.cursor
  some ((s.push t).moveTo c)

/-- A tag. -/
def tag? (s : Lexer) : Option Lexer :=
  s.keyLike? fun c => (readTag? s.inFlow c).map fun (handle, suffix, c) => (.tag handle suffix, c)

/-- An anchor. -/
def anchor? (s : Lexer) : Option Lexer :=
  s.keyLike? fun c => (readAnchor? (c.skip 1)).map fun (name, c) => (.anchor name, c)

/-- An alias. -/
def alias? (s : Lexer) : Option Lexer :=
  s.keyLike? fun c => (readAnchor? (c.skip 1)).map fun (name, c) => (.alias name, c)

/-- A quoted scalar. -/
def quoted? (s : Lexer) (double : Bool) : Option Lexer :=
  s.keyLike? fun c =>
    (readQuoted? double (c.left + 1) [] (c.skip 1)).map fun (text, c) =>
      (.scalar text (if double then .doubleQuoted else .singleQuoted), c)

/-- A block scalar; behind it a line has ended and a key may begin. -/
def block? (s : Lexer) (literal : Bool) : Option Lexer := do
  let s ← s.dropKey?
  let s := s.allowKey true
  let (text, c) ← readBlock? literal s.indent (s.cursor.skip 1)
  some ((s.push (.scalar text (if literal then .literal else .folded))).moveTo c)

/-- A plain scalar; a key may begin behind it if a line has ended there. -/
def plain? (s : Lexer) : Option Lexer := do
  let s ← s.saveKey?
  let (text, ended, c) ←
    readPlain? s.inFlow s.indent (s.cursor.left + 1) [] {} s.cursor
  some (((s.allowKey ended).push (.scalar text .plain)).moveTo c)

/-- Whether a plain scalar can begin with a character that is followed by a text. -/
def startsPlain (inFlow : Bool) (c : Char) (more : Text) : Bool :=
  if c == '-' then !more.head?.any Text.isBlank
  else if c == '?' || c == ':' then !inFlow && !blankNext more
  else !(blankNext [c] || ",[]{}#&*!|>\"%@`'".toList.contains c)

/-- Reads the next token, together with the collections that end or begin with it. -/
def step? (s : Lexer) : Option Lexer := do
  let s ← (← skipSpace? (s.cursor.left + 1) s).dropStale?
  let s := (s.unroll s.cursor.column).moveTo (← s.cursor.seeing? 4)
  match s.next with
  | [] => s.streamEnd?
  | c :: more =>
    if s.cursor.column == 0 && c == '%' then s.directive?
    else if s.cursor.column == 0 && separatorNext s.next then
      s.separator? (if c == '-' then .documentStart else .documentEnd)
    else if c == '[' then s.openFlow? .flowSequenceStart
    else if c == '{' then s.openFlow? .flowMappingStart
    else if c == ']' then s.closeFlow? .flowSequenceEnd
    else if c == '}' then s.closeFlow? .flowMappingEnd
    else if c == ',' then s.flowEntry?
    else if c == '-' && blankNext more then s.blockEntry?
    else if c == '?' && (s.inFlow || blankNext more) then s.explicitKey?
    else if c == ':' && (s.inFlow || blankNext more) then s.value?
    else if c == '*' then s.alias?
    else if c == '&' then s.anchor?
    else if c == '!' then s.tag?
    else if c == '|' && !s.inFlow then s.block? true
    else if c == '>' && !s.inFlow then s.block? false
    else if c == Text.apostrophe then s.quoted? false
    else if c == '"' then s.quoted? true
    else if startsPlain s.inFlow c more then s.plain?
    else none

/-- The tokens that need not be held back any longer, and the state without them. -/
def handOn (s : Lexer) : List Token × Lexer :=
  let count := match (s.keys.map PossibleKey.token).min? with
    | some number => number - s.handed
    | none => s.held.length
  (s.held.take count, { s with held := s.held.drop count, handed := s.handed + count })

/-- Reads tokens as long as none breaks a rule. -/
def run : (fuel : Nat) → Lexer → List Token
  | 0, _ => []
  | fuel + 1, s =>
    match s.step?.bind dropStale? with
    | none => []
    | some s =>
      let (ready, s) := s.handOn
      if ready.getLast? == some .streamEnd then ready else ready ++ run fuel s

end Lexer

/-- The tokens of a text, up to the first place that breaks a rule. -/
def tokens (text : Text) : List Token :=
  Lexer.run (text.length + 1) { cursor := Cursor.start text }

end AnnotationLog.Yaml
