/-
Doubles: numbers of 53 significant bits, read from decimal text and written back.

A finite double is a sign and `mantissa * 2 ^ exponent`.  A decimal is read as the nearest
double, an exact tie going to the even mantissa; one beyond the largest double is refused.  A
double is written with the fewest digits that read back as the same double, and of those the
nearest and of two the greater, in positional form and always with a decimal point.  All arithmetic is on naturals.
-/
import AnnotationLog.Text.Basic

namespace AnnotationLog

/-- A double; the value of a finite one is `mantissa * 2 ^ exponent` with its sign. -/
inductive Double where
  | finite (negative : Bool) (mantissa : Nat) (exponent : Int)
  | infinite (negative : Bool)
  | notANumber
  deriving DecidableEq, Repr

namespace Double

/-- The least exponent of a double. -/
def minExponent : Int := -1074

/-- The greatest exponent of a double with a full mantissa. -/
def maxExponent : Int := 971

/-- The power `base ^ e` as a fraction. -/
def power (base : Nat) (e : Int) : Nat × Nat :=
  if 0 ≤ e then (Nat.pow base e.toNat, 1) else (1, Nat.pow base (-e).toNat)

/-- The quotient rounded to the nearest natural, a tie going to the even one. -/
def roundDiv (num den : Nat) : Nat :=
  let q := num / den
  let twice := 2 * (num % den)
  if twice < den then q
  else if den < twice then q + 1
  else if q % 2 = 0 then q else q + 1

/-- The mantissa and exponent of the double nearest to a positive fraction, unless the fraction
is beyond all doubles. -/
def nearest? (num den : Nat) : Option (Nat × Int) :=
  let scaled (e : Int) : Nat × Nat :=
    let (p, q) := power 2 e
    (num * q, den * p)
  let guess := (Nat.log2 num : Int) - Nat.log2 den - 53
  let fit := if Nat.pow 2 53 * (scaled guess).2 ≤ (scaled guess).1 then guess + 1 else guess
  let e := max fit minExponent
  let m := roundDiv (scaled e).1 (scaled e).2
  let (m, e) := if m = Nat.pow 2 53 then (Nat.pow 2 52, e + 1) else (m, e)
  if maxExponent < e then none else some (m, e)

/-- The double nearest to `digits * 10 ^ e10` with its sign.  Far outside the range of doubles
no power is computed. -/
def ofDecimal? (negative : Bool) (digits : Nat) (e10 : Int) : Option Double :=
  let magnitude := ((Text.ofNat digits).length : Int) + e10
  if digits = 0 || magnitude < -330 then some (.finite negative 0 minExponent)
  else if 310 < magnitude then none
  else
    let (p, q) := power 10 e10
    (nearest? (digits * p) q).map fun (m, e) => .finite negative m e

/-- The value of some decimal digits. -/
def digitsValue (digits : Text) : Nat :=
  digits.foldl (fun n c => 10 * n + (c.toNat - '0'.toNat)) 0

/-- The exponent behind a mantissa: nothing, or `e` and an integer with an optional sign. -/
def exponentPart? : Text → Option Int
  | [] => some 0
  | c :: t =>
    if c == 'e' || c == 'E' then
      let (negative, digits) := match t with
        | '-' :: d => (true, d)
        | '+' :: d => (false, d)
        | d => (false, d)
      if !digits.isEmpty && digits.all Text.isDigit then
        let n : Int := digitsValue digits
        some (if negative then -n else n)
      else none
    else none

/-- The finite double written in a text: digits with an optional point among them and at least
one digit, then an optional exponent; a sign may stand in front. -/
def ofText? (t : Text) : Option Double :=
  let (negative, t) := match t with
    | '-' :: r => (true, r)
    | '+' :: r => (false, r)
    | r => (false, r)
  let whole := t.takeWhile Text.isDigit
  let (fraction, rest) := match t.dropWhile Text.isDigit with
    | '.' :: r => (r.takeWhile Text.isDigit, r.dropWhile Text.isDigit)
    | r => ([], r)
  if whole.isEmpty && fraction.isEmpty then none
  else do
    let e ← exponentPart? rest
    ofDecimal? negative (digitsValue (whole ++ fraction)) (e - fraction.length)

/-- The exponent of the first decimal digit of a positive fraction: the greatest `p` with
`10 ^ p ≤ num / den`. -/
def leadingExponent (num den : Nat) : Int :=
  if den ≤ num then ((Text.ofNat (num / den)).length : Int) - 1
  else below 400 1
where
  /-- Looks for the first `j` with `1 ≤ num * 10 ^ j / den`. -/
  below : Nat → Nat → Int
    | 0, j => -j
    | fuel + 1, j => if den ≤ num * Nat.pow 10 j then -j else below fuel (j + 1)

/-- The interval of fractions that read as a double, in quarters of the double's last place:
its lower end, the double itself and its upper end.  Below a power of two the neighbours are
half as far away. -/
def interval (m : Nat) (e : Int) : Nat × Nat × Nat :=
  if m = Nat.pow 2 52 ∧ minExponent < e then (4 * m - 1, 4 * m, 4 * m + 2)
  else (4 * m - 2, 4 * m, 4 * m + 2)

/-- The decimal of exactly `count` digits nearest to a positive double among those that read
back as it, of two the greater, with its exponent of ten. -/
def withDigits? (m : Nat) (e : Int) (count : Nat) : Option (Nat × Int) :=
  let (lo, mid, hi) := interval m e
  let (p, q) := power 2 (e - 2)
  let k := leadingExponent (mid * p) q + 1 - count
  let (tp, tq) := power 10 k
  -- in units of `10 ^ k / (q * tp)`
  let value := mid * p * tq
  let unit := q * tp
  let inside (d : Nat) : Bool :=
    let x := d * unit
    if m % 2 = 0 then lo * p * tq ≤ x && x ≤ hi * p * tq
    else lo * p * tq < x && x < hi * p * tq
  let down := value / unit
  let up := down + 1
  let closerDown := value - down * unit < up * unit - value
  if inside down && (closerDown || !inside up) then some (down, k)
  else if inside up then some (up, k)
  else none

/-- The shortest decimal that reads back as a positive double: seventeen digits always do. -/
def shortest (m : Nat) (e : Int) : Nat × Int :=
  ((List.range 17).findSome? fun i => withDigits? m e (i + 1)).getD (0, 0)

/-- `digits * 10 ^ e10` without exponent and with at least one digit on either side of the
decimal point. -/
def positional (digits : Nat) (e10 : Int) : Text :=
  let s := Text.ofNat digits
  if 0 ≤ e10 then s ++ List.replicate e10.toNat '0' ++ ['.', '0']
  else
    let places := (-e10).toNat
    let s := List.replicate (places + 1 - s.length) '0' ++ s
    s.take (s.length - places) ++ '.' :: s.drop (s.length - places)

/-- Drops the trailing zeros of a decimal. -/
def dropZeros : Nat → Nat → Int → Nat × Int
  | 0, digits, e10 => (digits, e10)
  | fuel + 1, digits, e10 =>
    if digits ≠ 0 ∧ digits % 10 = 0 then dropZeros fuel (digits / 10) (e10 + 1) else (digits, e10)

/-- A double as text. -/
def text : Double → Text
  | finite negative m e =>
    let (digits, e10) := if m = 0 then (0, 0) else shortest m e
    let (digits, e10) := dropZeros 17 digits e10
    let body := positional digits e10
    if negative then '-' :: body else body
  | infinite negative => if negative then "-inf".toList else "inf".toList
  | notANumber => "NaN".toList

end Double

end AnnotationLog
