/-
UTF-8: text as bytes, and bytes strictly read back.

`encode` writes one to four bytes a character.  `decode` reads the shortest form only, no
surrogate and nothing beyond the last code point; where it stops, it says how many bytes
before that place are sound.
-/
import AnnotationLog.Text.Basic

namespace AnnotationLog

/-- The content of a file. -/
abbrev Bytes := List UInt8

namespace Utf8

/-- A byte that continues a character and carries six bits of it. -/
def trailing (n : Nat) : UInt8 :=
  UInt8.ofNat (0x80 + n % 64)

/-- The bytes of one character. -/
def encodeChar (c : Char) : Bytes :=
  let n := c.toNat
  if n < 0x80 then [UInt8.ofNat n]
  else if n < 0x800 then [UInt8.ofNat (0xC0 + n / 64), trailing n]
  else if n < 0x10000 then [UInt8.ofNat (0xE0 + n / 4096), trailing (n / 64), trailing n]
  else [UInt8.ofNat (0xF0 + n / 262144), trailing (n / 4096), trailing (n / 64), trailing n]

/-- The bytes of a text. -/
def encode (t : Text) : Bytes :=
  t.flatMap encodeChar

/-- The six bits of a byte that continues a character. -/
def trailingBits? (b : UInt8) : Option Nat :=
  if 0x80 ≤ b.toNat ∧ b.toNat < 0xC0 then some (b.toNat - 0x80) else none

/-- The character with a code point, if the code point is a character's and no smaller than
the least one that needs as many bytes. -/
def charAtLeast? (least n : Nat) : Option Char :=
  if h : least ≤ n ∧ n.isValidChar then some (Char.ofNatAux n h.2) else none

/-- Adds the six bits of each of the next `count` bytes to the bits read so far. -/
def readTrailing? : (count bits : Nat) → Bytes → Option (Nat × Bytes)
  | 0, bits, rest => some (bits, rest)
  | _ + 1, _, [] => none
  | count + 1, bits, b :: rest =>
    match trailingBits? b with
    | some six => readTrailing? count (bits * 64 + six) rest
    | none => none

/-- Completes a character whose first byte gave `bits` and promised `count` further bytes. -/
def complete? (count least bits : Nat) (rest : Bytes) : Option (Char × Bytes) :=
  match readTrailing? count bits rest with
  | some (n, rest) => (charAtLeast? least n).map (·, rest)
  | none => none

/-- The character at the front of some bytes, and the bytes after it. -/
def decodeChar? : Bytes → Option (Char × Bytes)
  | [] => none
  | b :: rest =>
    let n := b.toNat
    if n < 0x80 then complete? 0 0 n rest
    else if n < 0xC0 then none
    else if n < 0xE0 then complete? 1 0x80 (n - 0xC0) rest
    else if n < 0xF0 then complete? 2 0x800 (n - 0xE0) rest
    else if n < 0xF8 then complete? 3 0x10000 (n - 0xF0) rest
    else none

theorem length_of_readTrailing? {count bits n : Nat} {bs rest : Bytes}
    (h : readTrailing? count bits bs = some (n, rest)) : rest.length ≤ bs.length := by
  fun_induction readTrailing? count bits bs with
  | case1 => simp_all
  | case2 => simp at h
  | case3 _ _ _ _ _ _ ih => exact Nat.le_succ_of_le (ih h)
  | case4 => simp at h

theorem length_of_complete? {count least bits : Nat} {bs rest : Bytes} {c : Char}
    (h : complete? count least bits bs = some (c, rest)) : rest.length ≤ bs.length := by
  unfold complete? at h
  split at h
  · next hr =>
    simp only [Option.map_eq_some_iff, Prod.mk.injEq] at h
    obtain ⟨_, _, _, rfl⟩ := h
    exact length_of_readTrailing? hr
  · simp at h

/-- Reading a character takes at least one byte. -/
theorem length_of_decodeChar? {bs rest : Bytes} {c : Char}
    (h : decodeChar? bs = some (c, rest)) : rest.length < bs.length := by
  unfold decodeChar? at h
  split at h
  · simp at h
  · refine Nat.lt_succ_of_le ?_
    dsimp only at h
    split at h
    · exact length_of_complete? h
    · split at h
      · simp at h
      · split at h
        · exact length_of_complete? h
        · split at h
          · exact length_of_complete? h
          · split at h
            · exact length_of_complete? h
            · simp at h

/-- The text that some bytes encode, or the number of bytes that are sound before the first
place where no character can be read. -/
def decode (bs : Bytes) : Except Nat Text :=
  match bs with
  | [] => .ok []
  | b :: rest =>
    match _h : decodeChar? (b :: rest) with
    | none => .error 0
    | some (c, rest') =>
      match decode rest' with
      | .ok t => .ok (c :: t)
      | .error n => .error ((encodeChar c).length + n)
termination_by bs.length
decreasing_by exact length_of_decodeChar? (by assumption)

end Utf8

end AnnotationLog
