/-
What the bytes of a file are read as.

Every file has exactly one answer.  A zero byte near the front makes it binary.  Any
other file is the text whose UTF-8 encoding its bytes are, and a file whose bytes are
no encoding is refused at the end of the longest piece at its front that is one.

UTF-8 is taken here as the standard library defines it, so overlong forms, surrogates,
numbers beyond the last code point and characters that are cut off are no encodings.
-/
import AnnotationLog.Proofs.Text.Utf8

namespace AnnotationLog

namespace Utf8

/-! ### The encoding is the standard one -/

theorem encodeChar_eq_utf8EncodeChar (c : Char) : encodeChar c = String.utf8EncodeChar c := by
  have hmax := toNat_lt c
  have hval : c.val.toNat = c.toNat := rfl
  unfold encodeChar String.utf8EncodeChar trailing
  simp only [hval, Nat.add_comm 0x80, Nat.add_comm 0xC0, Nat.add_comm 0xE0, Nat.add_comm 0xF0]
  -- The standard cuts the highest bits off at the room in the first byte, which they never fill.
  by_cases h1 : c.toNat < 0x80
  · rw [if_pos h1, if_pos (by omega)]
  by_cases h2 : c.toNat < 0x800
  · rw [if_neg h1, if_pos h2, if_neg (by omega), if_pos (by omega),
      show c.toNat / 64 % 32 = c.toNat / 64 by omega]
  by_cases h3 : c.toNat < 0x10000
  · rw [if_neg h1, if_neg h2, if_pos h3, if_neg (by omega), if_neg (by omega), if_pos (by omega),
      show c.toNat / 4096 % 16 = c.toNat / 4096 by omega]
  · rw [if_neg h1, if_neg h2, if_neg h3, if_neg (by omega), if_neg (by omega), if_neg (by omega),
      show c.toNat / 262144 % 8 = c.toNat / 262144 by omega]

theorem toByteArray_eq_utf8Encode_iff {bs : Bytes} {t : Text} :
    bs.toByteArray = t.utf8Encode ↔ bs = encode t := by
  rw [List.utf8Encode, List.toByteArray_inj, encode, funext encodeChar_eq_utf8EncodeChar]

theorem isValidUTF8_iff {bs : Bytes} : bs.toByteArray.IsValidUTF8 ↔ ∃ t, bs = encode t := by
  constructor
  · rintro ⟨t, ht⟩
    exact ⟨t, toByteArray_eq_utf8Encode_iff.mp ht⟩
  · rintro ⟨t, ht⟩
    exact ⟨t, toByteArray_eq_utf8Encode_iff.mpr ht⟩

/-- Decoding stops behind the longest piece at the front that is an encoding. -/
theorem longest_of_decode_eq_error {bs : Bytes} {n : Nat} (h : decode bs = .error n) :
    ∃ sound, sound <+: bs ∧ sound.toByteArray.IsValidUTF8 ∧ n = sound.length ∧
      ∀ p, p <+: bs → p.toByteArray.IsValidUTF8 → p.length ≤ sound.length := by
  obtain ⟨t, rest, rfl, -, hnone, hn⟩ := decode_eq_error_iff.mp h
  refine ⟨encode t, List.prefix_append _ _, isValidUTF8_iff.mpr ⟨t, rfl⟩, hn, ?_⟩
  intro p hp hvalid
  obtain ⟨u, rfl⟩ := isValidUTF8_iff.mp hvalid
  exact (prefix_of_decodeChar?_eq_none hnone hp).length_le

end Utf8

/-! ### The answer for a file -/

theorem decodeText_eq_binary_iff {bs : Bytes} :
    decodeText bs = .error .binary ↔ 0 ∈ bs.take probeLength := by
  rw [← Utf8.isBinary_iff, decodeText]
  cases isBinary bs with
  | true => simp
  | false => cases Utf8.decode bs <;> simp

theorem decodeText_eq_ok_iff {bs : Bytes} {t : Text} (h : 0 ∉ bs.take probeLength) :
    decodeText bs = .ok t ↔ Utf8.decode bs = .ok t := by
  rw [decodeText, if_neg (fun hbinary => h (Utf8.isBinary_iff.mp hbinary))]
  cases Utf8.decode bs <;> simp

theorem decodeText_eq_encoding {bs : Bytes} {n : Nat} (h : 0 ∉ bs.take probeLength)
    (hdecode : Utf8.decode bs = .error n) : decodeText bs = .error (.encoding n) := by
  rw [decodeText, if_neg (fun hbinary => h (Utf8.isBinary_iff.mp hbinary)), hdecode]

/-- **Every file has exactly one answer.**  It is binary if there is a zero among its first 8192
bytes.  Otherwise it is the text whose encoding its bytes are, and if there is none, it is refused
at the end of the longest piece at its front that is an encoding. -/
theorem decodeText_exact (bs : Bytes) :
    (decodeText bs = .error .binary ↔ 0 ∈ bs.take 8192) ∧
      (0 ∉ bs.take 8192 →
        (∀ t : Text, decodeText bs = .ok t ↔ bs.toByteArray = t.utf8Encode) ∧
        (¬ bs.toByteArray.IsValidUTF8 →
          ∃ sound, sound <+: bs ∧ sound.toByteArray.IsValidUTF8 ∧
            (∀ p, p <+: bs → p.toByteArray.IsValidUTF8 → p.length ≤ sound.length) ∧
            decodeText bs = .error (.encoding sound.length))) := by
  refine ⟨decodeText_eq_binary_iff, fun hzero => ⟨fun t => ?_, fun hinvalid => ?_⟩⟩
  · rw [decodeText_eq_ok_iff hzero, Utf8.decode_eq_ok_iff, Utf8.toByteArray_eq_utf8Encode_iff]
  · cases hdecode : Utf8.decode bs with
    | ok t =>
        have hbytes := Utf8.decode_eq_ok_iff.mp hdecode
        exact absurd (Utf8.isValidUTF8_iff.mpr ⟨t, hbytes⟩) hinvalid
    | error n =>
        obtain ⟨sound, hfront, hsound, rfl, hlongest⟩ := Utf8.longest_of_decode_eq_error hdecode
        exact ⟨sound, hfront, hsound, hlongest, decodeText_eq_encoding hzero hdecode⟩

/-- A letter of two bytes, and then a surrogate. -/
theorem decodeText_exact_surrogate :
    let bs : Bytes := [0xC3, 0xA9, 0xED, 0xA0, 0x80]
    0 ∉ bs.take 8192 ∧ ¬ bs.toByteArray.IsValidUTF8 ∧
      decodeText bs = .error (.encoding 2) ∧
      ∀ p, p <+: bs → p.toByteArray.IsValidUTF8 → p.length ≤ 2 := by
  intro bs
  have hzero : 0 ∉ bs.take 8192 := by decide
  have hanswer : decodeText bs = .error (.encoding 2) := by
    refine decodeText_eq_encoding hzero (Utf8.decode_eq_error_iff.mpr ?_)
    exact ⟨['é'], [0xED, 0xA0, 0x80], by decide, by decide, by decide, by decide⟩
  obtain ⟨htext, hrefused⟩ := (decodeText_exact bs).2 hzero
  have hinvalid : ¬ bs.toByteArray.IsValidUTF8 := by
    rintro ⟨t, ht⟩
    rw [(htext t).mpr ht] at hanswer
    simp at hanswer
  obtain ⟨sound, -, -, hlongest, hsound⟩ := hrefused hinvalid
  have hlength : sound.length = 2 := by simpa [hanswer] using hsound.symm
  exact ⟨hzero, hinvalid, hanswer, hlength ▸ hlongest⟩

end AnnotationLog
