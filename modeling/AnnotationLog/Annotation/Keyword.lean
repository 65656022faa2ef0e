/-
Keywords: the words that open an annotation, and the label they form on a line.

A keyword is one or more words.  On a line its letters may have either case and any run of
blanks may stand between its words; a colon closes the label and the rest of the line is its
value, as in `TODO: tidy this`.  The value must end in a visible character, trailing blanks
aside, so a label with nothing behind it is no label at all.
-/
import AnnotationLog.Text.Trim
import AnnotationLog.Unicode.CaseFolding

namespace AnnotationLog

/-- A keyword is a list of words; one read from text has at least one, and none is empty. -/
structure Keyword where
  words : List Text
  deriving DecidableEq, Repr

namespace Keyword

/-- The keyword written in a text, if there is any word in it. -/
def ofText? (t : Text) : Option Keyword :=
  match Text.words t with
  | [] => none
  | ws => some ⟨ws⟩

/-- What follows a word at the front of a text, letters of either case being the same. -/
def afterWord? : (word : Text) → Text → Option Text
  | [], t => some t
  | _ :: _, [] => none
  | w :: word, c :: t => if Unicode.sameLetter w c then afterWord? word t else none

/-- What follows some words at the front of a text, blanks standing between any two. -/
def afterWords? : (words : List Text) → Text → Option Text
  | [], t => some t
  | [word], t => afterWord? word t
  | word :: words, t =>
    match afterWord? word t with
    | some (c :: rest) =>
      if Text.isBlank c then afterWords? words (rest.dropWhile Text.isBlank) else none
    | _ => none

/-- What follows a keyword at the front of a text. -/
def after? (k : Keyword) (t : Text) : Option Text :=
  afterWords? k.words t

end Keyword

/-- Whether a value has an end that shows: its last character that is no blank exists and is
not white space. -/
def endsVisibly (t : Text) : Bool :=
  match t.reverse.dropWhile Text.isBlank with
  | c :: _ => !Unicode.isWhiteSpace c
  | [] => false

/-- The value behind a colon, blanks before the colon being passed over. -/
def valueAfterColon? (t : Text) : Option Text :=
  match t.dropWhile Text.isBlank with
  | ':' :: value => if endsVisibly value then some (Text.trim value) else none
  | _ => none

/-- A text without one space at its front. -/
def dropSpace : Text → Text
  | ' ' :: t => t
  | t => t

/-- The value of the label at the front of a text, for the first keyword that gives one.  One
space may stand before the label. -/
def labelValue? (keywords : List Keyword) (t : Text) : Option Text :=
  keywords.findSome? fun k => (k.after? (dropSpace t)).bind valueAfterColon?

end AnnotationLog
