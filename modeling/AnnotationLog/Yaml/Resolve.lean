/-
Resolution: the value that the text of a scalar stands for.

A plain scalar may be null, a truth value, an integer or a floating point number; everything
else is a string, and so is every quoted scalar.  Integers are decimal, or hexadecimal, octal
or binary with `0x`, `0o` or `0b` in front; digits behind a leading zero are no number.  A tag
can ask for one of these and then the text must be one.
-/
import AnnotationLog.Config.Fault
import AnnotationLog.Yaml.Event

namespace AnnotationLog.Yaml

/-- The spellings of null. -/
def isNull (t : Text) : Bool :=
  ["null".toList, "Null".toList, "NULL".toList, "~".toList].contains t

/-- The truth value that a text spells. -/
def truth? (t : Text) : Option Bool :=
  if ["true".toList, "True".toList, "TRUE".toList].contains t then some true
  else if ["false".toList, "False".toList, "FALSE".toList].contains t then some false
  else none

/-- The value of some digits to a base; there must be at least one. -/
def digitsInBase? (base : Nat) (t : Text) : Option Nat :=
  if t.isEmpty then none
  else
    t.foldl (fun n c =>
      n.bind fun n => (hexDigit? c).bind fun d => if d < base then some (n * base + d) else none)
      (some 0)

/-- Whether a text is digits behind a zero, which are not read as a number. -/
def isZeroPadded (t : Text) : Bool :=
  let digits := match t with
    | '-' :: r => r
    | '+' :: r => r
    | r => r
  1 < digits.length && digits.head? == some '0' && digits.all Text.isDigit

/-- The bases that a mark in front of the digits can name. -/
def bases : List (Text × Nat) :=
  [("0x".toList, 16), ("0o".toList, 8), ("0b".toList, 2)]

/-- The value of digits with their base in front. -/
def based? (t : Text) : Option Nat :=
  bases.findSome? fun (mark, base) => (Text.after? mark t).bind (digitsInBase? base)

/-- The natural below `bound` that a text spells; a plus sign may stand in front. -/
def natural? (bound : Nat) (t : Text) : Option Nat :=
  let digits := (Text.after? ['+'] t).getD t
  let decimal := if isZeroPadded t then none else digitsInBase? 10 digits
  (((based? digits).filter (· < bound)).or (decimal.filter (· < bound)))

/-- The negative integer, or zero, that a text with a minus sign in front spells, down to
`-bound`. -/
def negative? (bound : Nat) (t : Text) : Option Int := do
  let digits ← Text.after? ['-'] t
  let decimal := if isZeroPadded t then none else digitsInBase? 10 digits
  let n ← ((based? digits).filter (· ≤ bound)).or (decimal.filter (· ≤ bound))
  some (-(n : Int))

/-- The integer that a text spells, with 64 bits if it fits into them and else with 128. -/
def integer? (t : Text) : Option Found :=
  ((natural? (Nat.pow 2 64) t).map fun n => Found.integer n).or <|
  ((negative? (Nat.pow 2 63) t).map Found.integer).or <|
  ((natural? (Nat.pow 2 128) t).map fun n => Found.wideInteger n).or
  ((negative? (Nat.pow 2 127) t).map Found.wideInteger)

/-- The floating point number that a text spells. -/
def float? (t : Text) : Option Double :=
  let infinity := [".inf".toList, ".Inf".toList, ".INF".toList]
  let unsigned := (Text.after? ['+'] t).getD t
  if infinity.contains unsigned then some (.infinite false)
  else if (Text.after? ['-'] t).any infinity.contains then some (.infinite true)
  else if [".nan".toList, ".NaN".toList, ".NAN".toList].contains t then some .notANumber
  else if t.head? == some '+' && unsigned.head?.any fun c => c == '+' || c == '-' then none
  else Double.ofText? unsigned

/-- The value that the text of a plain scalar stands for. -/
def plainValue (t : Text) : Found :=
  if t.isEmpty || isNull t then .unit
  else
    match truth? t with
    | some b => .boolean b
    | none =>
      match integer? t with
      | some found => found
      | none =>
        match if isZeroPadded t then none else float? t with
        | some x => .float x
        | none => .string t

namespace Scalar

/-- Whether nothing is written. -/
def isBare (s : Scalar) : Bool :=
  s.text.isEmpty && s.style == .plain

/-- How a scalar does not fit where something else is expected. -/
def misfit (s : Scalar) (expected : Text) : Misfit :=
  let typed (found : Option Found) (wanted : String) : Misfit :=
    match found with
    | some found => .invalidType found expected
    | none => .invalidValue (.string s.text) wanted.toList
  match s.tag with
  | none =>
    .invalidType (if s.style == .plain then plainValue s.text else .string s.text) expected
  | some tag =>
    if tag == Tag.core "bool" then typed ((truth? s.text).map .boolean) "a boolean"
    else if tag == Tag.core "int" then typed (integer? s.text) "an integer"
    else if tag == Tag.core "float" then typed ((float? s.text).map .float) "a float"
    else if tag == Tag.core "null" then
      typed (if isNull s.text then some .unit else none) "null"
    else if tag.isLocal && s.style == .plain then
      .invalidType (plainValue s.text) expected
    else .invalidType (.string s.text) expected

end Scalar

end AnnotationLog.Yaml
