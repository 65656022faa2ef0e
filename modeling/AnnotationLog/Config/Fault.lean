/-
Faults of a configuration: what a file says that cannot be used, and where.

A misfit is a value of the wrong kind or a mapping with the wrong fields.  Its place is the
way to it from the top of the document, and its message describes what was found there.
-/
import AnnotationLog.Decimal.Double
import AnnotationLog.Files.Error
import AnnotationLog.Text.Quoted

namespace AnnotationLog

/-- One step into a document. -/
inductive Step where
  /-- Into the value of a field. -/
  | field (name : Text)
  /-- Into the value of a field whose name is itself a reference. -/
  | unnamed
  /-- Into an item of a list, counted from 0. -/
  | item (index : Nat)
  deriving DecidableEq, Repr

/-- The way from the top of a document to a value, innermost step first. -/
abbrev Place := List Step

namespace Place

/-- The place as text, such as `kinds[0].name`; the top of the document has none. -/
def text : Place → Text
  | [] => []
  | [.item i] => ".[".toList ++ Text.ofNat i ++ [']']
  | .item i :: outer => text outer ++ '[' :: Text.ofNat i ++ [']']
  | .field name :: outer => inside outer ++ name
  | .unnamed :: outer => inside outer ++ ['?']
where
  /-- The outer place with the dot that separates it from a field. -/
  inside : Place → Text
    | [] => []
    | outer => text outer ++ ['.']

end Place

/-- What stands where something else was wanted. -/
inductive Found where
  | unit
  | boolean (value : Bool)
  | integer (value : Int)
  /-- An integer beyond 64 bits, which takes 128. -/
  | wideInteger (value : Int)
  | float (value : Double)
  | string (value : Text)
  | sequence
  | mapping
  deriving DecidableEq, Repr

namespace Found

/-- The description of a value in a message. -/
def text : Found → Text
  | unit => "unit value".toList
  | boolean b => "boolean ".toList ++ Text.backquoted (if b then "true" else "false").toList
  | integer n => "integer ".toList ++ Text.backquoted (Text.ofInt n)
  | wideInteger n =>
    "integer ".toList ++ Text.backquoted (Text.ofInt n) ++ " as ".toList ++
      (if n < 0 then "i128" else "u128").toList
  | float x => "floating point ".toList ++ Text.backquoted x.text
  | string t => "string ".toList ++ Text.quote t
  | sequence => "sequence".toList
  | mapping => "map".toList

end Found

/-- A value that does not fit. -/
inductive Misfit where
  | invalidType (found : Found) (expected : Text)
  | invalidValue (found : Found) (expected : Text)
  | unknownField (name : Text) (known : List Text)
  | missingField (name : Text)
  | duplicateField (name : Text)
  | unknownVariant (name : Text) (known : List Text)
  deriving DecidableEq, Repr

namespace Misfit

/-- A choice of names: two of them with `or` between, more as a list. -/
def choice : List Text → Text
  | [] => "there are no choices".toList
  | [a] => Text.backquoted a
  | [a, b] => Text.backquoted a ++ " or ".toList ++ Text.backquoted b
  | names => "one of ".toList ++ Text.join [',', ' '] (names.map Text.backquoted)

/-- What is wrong, without the place. -/
def message : Misfit → Text
  | invalidType found expected =>
    "invalid type: ".toList ++ found.text ++ ", expected ".toList ++ expected
  | invalidValue found expected =>
    "invalid value: ".toList ++ found.text ++ ", expected ".toList ++ expected
  | unknownField name known =>
    "unknown field ".toList ++ Text.backquoted name ++ ", expected ".toList ++ choice known
  | missingField name => "missing field ".toList ++ Text.backquoted name
  | duplicateField name => "duplicate field ".toList ++ Text.backquoted name
  | unknownVariant name known =>
    "unknown variant ".toList ++ Text.backquoted name ++ ", expected ".toList ++ choice known

end Misfit

/-- Why a configuration cannot be used. -/
inductive ConfigFault where
  /-- The file cannot be read. -/
  | unreadable (cause : FileError)
  /-- The text is not one YAML document. -/
  | malformed
  /-- A value does not fit. -/
  | misfit (place : Place) (what : Misfit)
  deriving DecidableEq, Repr

namespace ConfigFault

/-- The reason in a message.  Of a text that is not one YAML document no more is said. -/
def message : ConfigFault → Text
  | unreadable cause => cause.message
  | malformed => "<yaml>".toList
  | misfit [] what => what.message
  | misfit place what => place.text ++ ": ".toList ++ what.message

end ConfigFault

end AnnotationLog
