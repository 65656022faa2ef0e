/-
Ranges: sets of characters and maps on them, given by the ranges of a table.

A Unicode property is data: some hundreds of ranges of code points.  `inRanges` is the one
way to ask whether a character has such a property, and `shift` the one way to apply a
letter-by-letter case map, so that every other module sees a function on characters and no
table.
-/

namespace AnnotationLog.Unicode

/-- Whether a character lies in one of the ranges, ends included. -/
def inRanges (ranges : List (Nat × Nat)) (c : Char) : Bool :=
  ranges.any fun r => r.1 ≤ c.toNat && c.toNat ≤ r.2

/-- One row of a case map: every `step`-th code point from `first` to `last` goes to the code
point equally far after `target`. -/
abbrev ShiftRow := Nat × Nat × Nat × Nat

/-- The image of a code point under one row, if the row covers it. -/
def ShiftRow.apply? (row : ShiftRow) (n : Nat) : Option Nat :=
  let (first, last, step, target) := row
  if first ≤ n ∧ n ≤ last ∧ (n - first) % step = 0 then some (target + (n - first)) else none

/-- The image of a character under a case map; a character that no row covers stays. -/
def shift (rows : List ShiftRow) (c : Char) : Char :=
  match rows.findSome? fun row => row.apply? c.toNat with
  | some n => Char.ofNat n
  | none => c

end AnnotationLog.Unicode
