/-
A text as bytes and back.

A character has one of four shapes: a first byte with the highest bits, and up to
three bytes behind it with six bits each.  Reading undoes this and nothing else, so a
character is read exactly where its bytes stand.  From this follows what decoding
does: bytes are decoded to a text exactly if they are its bytes, and where decoding
stops no longer piece of them is a text.

The zero byte stands for the zero character and for nothing else, in both directions:
a text without that character is written without that byte, and bytes without that
byte hold no such character.
-/
import AnnotationLog.Files.Content
import Mathlib.Algebra.Group.Nat.Defs

namespace AnnotationLog.Utf8

/-! ### The bytes of a character -/

theorem toNat_lt (c : Char) : c.toNat < 0x110000 := by
  rcases c.valid with h | h
  · exact Nat.lt_of_lt_of_le h (by decide)
  · exact h.2

theorem toNat_ofNat_of_lt {n : Nat} (h : n < 256) : (UInt8.ofNat n).toNat = n := by
  rw [UInt8.toNat_ofNat']
  exact Nat.mod_eq_of_lt h

/-- The bytes that carry the lowest bits of a number, six bits each. -/
def trailings : (count n : Nat) → Bytes
  | 0, _ => []
  | count + 1, n => trailing (n / 64 ^ count) :: trailings count n

/-- How many bytes follow the first byte of a character, and what the first byte begins from. -/
def shape (c : Char) : Nat × Nat :=
  if c.toNat < 0x80 then (0, 0)
  else if c.toNat < 0x800 then (1, 0xC0)
  else if c.toNat < 0x10000 then (2, 0xE0)
  else (3, 0xF0)

theorem encodeChar_eq (c : Char) :
    encodeChar c =
      UInt8.ofNat ((shape c).2 + c.toNat / 64 ^ (shape c).1) :: trailings (shape c).1 c.toNat := by
  unfold encodeChar shape
  dsimp only
  split
  · simp [trailings]
  · split
    · simp [trailings]
    · split
      · simp [trailings]
      · simp [trailings]

theorem shape_cases (c : Char) :
    shape c = (0, 0) ∧ c.toNat < 0x80 ∨
      shape c = (1, 0xC0) ∧ 0x80 ≤ c.toNat ∧ c.toNat < 0x800 ∨
      shape c = (2, 0xE0) ∧ 0x800 ≤ c.toNat ∧ c.toNat < 0x10000 ∨
      shape c = (3, 0xF0) ∧ 0x10000 ≤ c.toNat := by
  by_cases h1 : c.toNat < 0x80
  · simp [shape, h1]
  by_cases h2 : c.toNat < 0x800
  · simp [shape, h1, h2, Nat.not_lt.mp h1]
  by_cases h3 : c.toNat < 0x10000
  · simp [shape, h1, h2, h3, Nat.not_lt.mp h2]
  · simp [shape, h1, h2, h3, Nat.not_lt.mp h3]

theorem first_lt_256 (c : Char) : (shape c).2 + c.toNat / 64 ^ (shape c).1 < 256 := by
  have hmax := toNat_lt c
  rcases shape_cases c with ⟨hc, hn⟩ | ⟨hc, hn⟩ | ⟨hc, hn⟩ | ⟨hc, hn⟩ <;>
    rw [hc] <;> simp <;> omega

/-! ### Reading a character -/

theorem trailingBits?_eq_some_iff {b : UInt8} {six : Nat} :
    trailingBits? b = some six ↔ six < 64 ∧ b = trailing six := by
  unfold trailingBits? trailing
  constructor
  · intro h
    split at h
    · rename_i hrange
      obtain rfl := Option.some.inj h
      rw [Nat.mod_eq_of_lt (by omega), Nat.add_sub_cancel' hrange.1, UInt8.ofNat_toNat]
      exact ⟨by omega, rfl⟩
    · simp at h
  · rintro ⟨hsix, rfl⟩
    rw [Nat.mod_eq_of_lt hsix, toNat_ofNat_of_lt (by omega), if_pos (by omega),
      Nat.add_sub_cancel_left]

theorem trailing_mod (n : Nat) : trailing (n % 64) = trailing n := by
  rw [trailing, trailing, Nat.mod_mod]

/-- The bytes behind the first are read as a number exactly if they carry its lowest bits and the
bits before them were read already. -/
theorem readTrailing?_eq_some_iff {count bits n : Nat} {bs rest : Bytes} :
    readTrailing? count bits bs = some (n, rest) ↔
      bits = n / 64 ^ count ∧ bs = trailings count n ++ rest := by
  induction count generalizing bits bs with
  | zero => simp [readTrailing?, trailings]
  | succ count ih =>
      rw [Nat.pow_succ, ← Nat.div_div_eq_div_mul, trailings, List.cons_append]
      cases bs with
      | nil => simp [readTrailing?]
      | cons b bs =>
          rw [List.cons.injEq, readTrailing?]
          constructor
          · intro h
            split at h
            · rename_i six hsix
              obtain ⟨hlt, rfl⟩ := trailingBits?_eq_some_iff.mp hsix
              obtain ⟨hbits, rfl⟩ := ih.mp h
              rw [← trailing_mod (n / 64 ^ count), ← hbits]
              exact ⟨by omega, congrArg trailing (by omega), rfl⟩
            · simp at h
          · rintro ⟨rfl, rfl, rfl⟩
            have hsix := trailingBits?_eq_some_iff.mpr
              ⟨Nat.mod_lt (n / 64 ^ count) (by decide), (trailing_mod _).symm⟩
            rw [hsix]
            exact ih.mpr ⟨Nat.div_add_mod' _ _, rfl⟩

theorem charAtLeast?_eq_some_iff {least n : Nat} {c : Char} :
    charAtLeast? least n = some c ↔ least ≤ c.toNat ∧ n = c.toNat := by
  constructor
  · intro h
    by_cases hvalid : least ≤ n ∧ n.isValidChar
    · rw [charAtLeast?, dif_pos hvalid] at h
      obtain rfl := Option.some.inj h
      exact ⟨hvalid.1, rfl⟩
    · rw [charAtLeast?, dif_neg hvalid] at h
      simp at h
  · rintro ⟨hleast, rfl⟩
    rw [charAtLeast?, dif_pos ⟨hleast, c.valid⟩]
    rfl

theorem complete?_eq_some_iff {count least bits : Nat} {bs rest : Bytes} {c : Char} :
    complete? count least bits bs = some (c, rest) ↔
      least ≤ c.toNat ∧ bits = c.toNat / 64 ^ count ∧ bs = trailings count c.toNat ++ rest := by
  unfold complete?
  constructor
  · intro h
    split at h
    · rename_i n rest' hread
      obtain ⟨d, hd, heq⟩ := Option.map_eq_some_iff.mp h
      obtain ⟨rfl, rfl⟩ := Prod.mk.inj heq
      obtain ⟨hleast, rfl⟩ := charAtLeast?_eq_some_iff.mp hd
      exact ⟨hleast, readTrailing?_eq_some_iff.mp hread⟩
    · simp at h
  · rintro ⟨hleast, hread⟩
    rw [readTrailing?_eq_some_iff.mpr hread]
    dsimp only
    rw [charAtLeast?_eq_some_iff.mpr ⟨hleast, rfl⟩]
    rfl

/-- A first byte of some shape begins a character of that shape. -/
theorem eq_encodeChar_of_complete? {base count least : Nat} {b : UInt8} {bs rest : Bytes}
    {c : Char} (hbase : base ≤ b.toNat)
    (hshape : least ≤ c.toNat → b.toNat - base = c.toNat / 64 ^ count → shape c = (count, base))
    (h : complete? count least (b.toNat - base) bs = some (c, rest)) :
    b :: bs = encodeChar c ++ rest := by
  obtain ⟨hleast, hbits, rfl⟩ := complete?_eq_some_iff.mp h
  rw [encodeChar_eq, hshape hleast hbits, ← hbits, Nat.add_sub_cancel' hbase, UInt8.ofNat_toNat,
    List.cons_append]

/-- What is read as a character is its bytes. -/
theorem eq_encodeChar_of_decodeChar? {bs rest : Bytes} {c : Char}
    (h : decodeChar? bs = some (c, rest)) : bs = encodeChar c ++ rest := by
  cases bs with
  | nil => simp [decodeChar?] at h
  | cons b bs =>
      rw [decodeChar?] at h
      -- The first byte bounds the number from above and `least` bounds it from below, and the
      -- two leave one shape.
      split at h
      · refine eq_encodeChar_of_complete? (Nat.zero_le _) (fun _ hbits => ?_) h
        rw [shape, if_pos (by omega)]
      · split at h
        · simp at h
        · split at h
          · refine eq_encodeChar_of_complete? (by omega) (fun hleast hbits => ?_) h
            rw [shape, if_neg (by omega), if_pos (by omega)]
          · split at h
            · refine eq_encodeChar_of_complete? (by omega) (fun hleast hbits => ?_) h
              rw [shape, if_neg (by omega), if_neg (by omega), if_pos (by omega)]
            · split at h
              · refine eq_encodeChar_of_complete? (by omega) (fun hleast hbits => ?_) h
                rw [shape, if_neg (by omega), if_neg (by omega), if_neg (by omega)]
              · simp at h

/-- The bytes of a character are read as that character. -/
theorem decodeChar?_encodeChar (c : Char) (rest : Bytes) :
    decodeChar? (encodeChar c ++ rest) = some (c, rest) := by
  have hmax := toNat_lt c
  rw [encodeChar_eq, List.cons_append, decodeChar?, toNat_ofNat_of_lt (first_lt_256 c)]
  rcases shape_cases c with ⟨hc, hn⟩ | ⟨hc, hn⟩ | ⟨hc, hn⟩ | ⟨hc, hn⟩ <;>
    rw [hc] <;> dsimp only
  · rw [if_pos (by omega), complete?_eq_some_iff]
    exact ⟨by omega, by omega, rfl⟩
  · rw [if_neg (by omega), if_neg (by omega), if_pos (by omega), complete?_eq_some_iff]
    exact ⟨by omega, by omega, rfl⟩
  · rw [if_neg (by omega), if_neg (by omega), if_neg (by omega), if_pos (by omega),
      complete?_eq_some_iff]
    exact ⟨by omega, by omega, rfl⟩
  · rw [if_neg (by omega), if_neg (by omega), if_neg (by omega), if_neg (by omega),
      if_pos (by omega), complete?_eq_some_iff]
    exact ⟨by omega, by omega, rfl⟩

/-- **A character is read exactly where its bytes stand.** -/
theorem decodeChar?_eq_some_iff {bs rest : Bytes} {c : Char} :
    decodeChar? bs = some (c, rest) ↔ bs = encodeChar c ++ rest :=
  ⟨eq_encodeChar_of_decodeChar?, fun h => h ▸ decodeChar?_encodeChar c rest⟩

/-- No character's bytes begin with another's. -/
theorem encodeChar_append_inj {a b : Char} {x y : Bytes}
    (h : encodeChar a ++ x = encodeChar b ++ y) : a = b ∧ x = y := by
  have ha := decodeChar?_eq_some_iff.mpr h
  rw [decodeChar?_eq_some_iff.mpr rfl, Option.some.injEq, Prod.mk.injEq] at ha
  exact ha

/-! ### Reading a text -/

theorem encode_cons (c : Char) (t : Text) : encode (c :: t) = encodeChar c ++ encode t :=
  List.flatMap_cons

theorem decode_of_decodeChar? {bs rest : Bytes} {c : Char} (h : decodeChar? bs = some (c, rest)) :
    decode bs = match decode rest with
      | .ok t => .ok (c :: t)
      | .error n => .error ((encodeChar c).length + n) := by
  cases bs with
  | nil => simp [decodeChar?] at h
  | cons b bs =>
      rw [decode]
      split
      · rename_i hnone
        rw [h] at hnone
        simp at hnone
      · rename_i c' rest' hsome
        rw [h, Option.some.injEq, Prod.mk.injEq] at hsome
        obtain ⟨rfl, rfl⟩ := hsome
        rfl

theorem decode_of_none {bs : Bytes} (hne : bs ≠ []) (h : decodeChar? bs = none) :
    decode bs = .error 0 := by
  cases bs with
  | nil => exact absurd rfl hne
  | cons b bs =>
      rw [decode]
      split
      · rfl
      · rename_i c rest hsome
        rw [h] at hsome
        simp at hsome

/-- **What is encoded is decoded again.** -/
theorem decode_encode (t : Text) : decode (encode t) = .ok t := by
  induction t with
  | nil => rw [encode, List.flatMap_nil, decode]
  | cons c t ih =>
      rw [decode_of_decodeChar? (decodeChar?_eq_some_iff.mpr (encode_cons c t)), ih]

/-- **Bytes are decoded to a text exactly if they are its bytes.** -/
theorem decode_eq_ok_iff {bs : Bytes} {t : Text} : decode bs = .ok t ↔ bs = encode t := by
  constructor
  · intro h
    fun_induction decode bs generalizing t with
    | case1 =>
        obtain rfl := Except.ok.inj h
        rfl
    | case2 => simp at h
    | case3 b bs c rest hchar t' hrest ih =>
        obtain rfl := Except.ok.inj h
        rw [decodeChar?_eq_some_iff.mp hchar, ih hrest, encode_cons]
    | case4 => simp at h
  · rintro rfl
    exact decode_encode t

/-- Decoding stops where no character can be read, and what lies before that place is a text. -/
theorem decode_eq_error_iff {bs : Bytes} {n : Nat} : decode bs = .error n ↔
    ∃ t rest, bs = encode t ++ rest ∧ rest ≠ [] ∧ decodeChar? rest = none ∧
      n = (encode t).length := by
  constructor
  · intro h
    fun_induction decode bs generalizing n with
    | case1 => simp at h
    | case2 b bs hnone =>
        obtain rfl := Except.error.inj h
        exact ⟨[], b :: bs, rfl, List.cons_ne_nil b bs, hnone, rfl⟩
    | case3 => simp at h
    | case4 b bs c rest hchar m hrest ih =>
        obtain rfl := Except.error.inj h
        obtain ⟨t, behind, rfl, hne, hnone, rfl⟩ := ih hrest
        refine ⟨c :: t, behind, ?_, hne, hnone, ?_⟩
        · rw [decodeChar?_eq_some_iff.mp hchar, encode_cons, List.append_assoc]
        · rw [encode_cons, List.length_append]
  · rintro ⟨t, rest, rfl, hne, hnone, rfl⟩
    induction t with
    | nil => exact decode_of_none hne hnone
    | cons c t ih =>
        rw [encode_cons, List.append_assoc, decode_of_decodeChar? (decodeChar?_eq_some_iff.mpr rfl),
          ih, List.length_append]

/-- No text goes on across a place where no character can be read. -/
theorem prefix_of_decodeChar?_eq_none {t u : Text} {rest : Bytes}
    (hnone : decodeChar? rest = none) (h : encode u <+: encode t ++ rest) :
    encode u <+: encode t := by
  induction u generalizing t with
  | nil => exact List.nil_prefix
  | cons c u ih =>
      obtain ⟨more, hmore⟩ := h
      rw [encode_cons, List.append_assoc] at hmore
      cases t with
      | nil =>
          have hsome : decodeChar? rest = some (c, encode u ++ more) :=
            decodeChar?_eq_some_iff.mpr hmore.symm
          rw [hnone] at hsome
          simp at hsome
      | cons d t =>
          rw [encode_cons, List.append_assoc] at hmore
          obtain ⟨rfl, hbehind⟩ := encodeChar_append_inj hmore
          rw [encode_cons, encode_cons, List.prefix_append_right_inj]
          exact ih ⟨more, hbehind⟩

/-! ### The zero byte -/

theorem zero_ne_ofNat {n : Nat} (hpos : 0 < n) (hlt : n < 256) : (0 : UInt8) ≠ UInt8.ofNat n := by
  intro heq
  have h := congrArg UInt8.toNat heq
  rw [toNat_ofNat_of_lt hlt] at h
  exact Nat.ne_of_lt hpos h

theorem zero_notMem_trailings (count n : Nat) : (0 : UInt8) ∉ trailings count n := by
  induction count with
  | zero => exact List.not_mem_nil
  | succ count ih =>
      rw [trailings, List.mem_cons, not_or]
      exact ⟨zero_ne_ofNat (by omega) (by omega), ih⟩

theorem zero_notMem_encodeChar {c : Char} (h : c ≠ '\x00') : (0 : UInt8) ∉ encodeChar c := by
  have hpos : c.toNat ≠ 0 := fun hc => h (Char.toNat_inj.mp hc)
  have hfirst : 0 < (shape c).2 + c.toNat / 64 ^ (shape c).1 := by
    rcases shape_cases c with ⟨hc, hn⟩ | ⟨hc, hn⟩ | ⟨hc, hn⟩ | ⟨hc, hn⟩ <;>
      rw [hc] <;> dsimp only <;> omega
  rw [encodeChar_eq, List.mem_cons, not_or]
  exact ⟨zero_ne_ofNat hfirst (first_lt_256 c), zero_notMem_trailings _ _⟩

theorem zero_notMem_encode {t : Text} (h : '\x00' ∉ t) : (0 : UInt8) ∉ encode t := by
  intro hc
  obtain ⟨c, hct, hzero⟩ := List.mem_flatMap.mp hc
  refine zero_notMem_encodeChar ?_ hzero
  rintro rfl
  exact h hct

/-- Bytes without a zero hold no zero character. -/
theorem nul_notMem_of_decode {bs : Bytes} {t : Text} (h : decode bs = .ok t)
    (hzero : (0 : UInt8) ∉ bs) : '\x00' ∉ t := by
  intro hmem
  rw [decode_eq_ok_iff.mp h] at hzero
  exact hzero (List.mem_flatMap.mpr ⟨'\x00', hmem, by decide⟩)

/-! ### The content of a file -/

theorem isBinary_iff {bs : Bytes} : isBinary bs = true ↔ 0 ∈ bs.take probeLength :=
  List.contains_iff_mem

theorem isBinary_of_notMem {bs : Bytes} (h : (0 : UInt8) ∉ bs) : isBinary bs = false := by
  rw [Bool.eq_false_iff]
  intro hbinary
  exact h (List.mem_of_mem_take (isBinary_iff.mp hbinary))

/-- A text without a zero character is read from the file it was written to. -/
theorem decodeText_encode_eq (t : Text) : decodeText (encode t) =
    if isBinary (encode t) then .error .binary else .ok t := by
  rw [decodeText, decode_encode]

theorem decodeText_encode {t : Text} (h : '\x00' ∉ t) : decodeText (encode t) = .ok t := by
  rw [decodeText_encode_eq, isBinary_of_notMem (zero_notMem_encode h)]
  rfl

theorem nul_notMem_of_decodeText {bs : Bytes} {t : Text} (h : decodeText bs = .ok t)
    (hzero : (0 : UInt8) ∉ bs) : '\x00' ∉ t := by
  rw [decodeText, isBinary_of_notMem hzero] at h
  cases hdecode : decode bs with
  | ok t' =>
      rw [hdecode] at h
      obtain rfl : t' = t := by simpa using h
      exact nul_notMem_of_decode hdecode hzero
  | error n =>
      rw [hdecode] at h
      simp at h

end AnnotationLog.Utf8
