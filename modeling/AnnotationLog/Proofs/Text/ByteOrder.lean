/-
The order of texts and the order of their bytes.

An operating system compares names byte by byte, and here they are compared by
characters.  UTF-8 is made so that this is the same.  The first byte of a character
grows with the number of bytes that follow it, and among characters of one length
the bits are written from the highest down, so two characters differ first in a byte
of which the greater character has the greater.
-/
import AnnotationLog.Proofs.Text.Utf8

namespace AnnotationLog.Utf8

/-! ### Bytes -/

theorem ofNat_lt_ofNat {m n : Nat} (h : m < n) (hn : n < 256) : UInt8.ofNat m < UInt8.ofNat n := by
  rw [UInt8.lt_iff_toNat_lt, toNat_ofNat_of_lt hn, toNat_ofNat_of_lt (Nat.lt_trans h hn)]
  exact h

theorem cons_lt_cons_of_lt {m n : Nat} (h : m < n) (hn : n < 256) (x y : Bytes) :
    UInt8.ofNat m :: x < UInt8.ofNat n :: y :=
  List.cons_lt_cons_iff.mpr (Or.inl (ofNat_lt_ofNat h hn))

/-! ### Characters -/

/-- Of two numbers that are the same but for their lowest bits the smaller comes first. -/
theorem trailings_lt {count m n : Nat} (hlt : m < n) (hsame : m / 64 ^ count = n / 64 ^ count)
    (x y : Bytes) : trailings count m ++ x < trailings count n ++ y := by
  induction count with
  | zero =>
      rw [Nat.pow_zero, Nat.div_one, Nat.div_one] at hsame
      omega
  | succ count ih =>
      have hle : m / 64 ^ count ≤ n / 64 ^ count := Nat.div_le_div_right (Nat.le_of_lt hlt)
      rw [Nat.pow_succ, ← Nat.div_div_eq_div_mul, ← Nat.div_div_eq_div_mul] at hsame
      rcases Nat.lt_or_eq_of_le hle with hdigit | hdigit
      · exact cons_lt_cons_of_lt (by omega) (by omega) _ _
      · rw [trailings, trailings, hdigit]
        exact List.cons_lt_cons_iff.mpr (Or.inr ⟨rfl, ih hdigit⟩)

/-- A first byte and the bytes behind it. -/
theorem first_lt {base count m n : Nat} (hlt : m < n) (hn : base + n / 64 ^ count < 256)
    (x y : Bytes) :
    UInt8.ofNat (base + m / 64 ^ count) :: (trailings count m ++ x) <
      UInt8.ofNat (base + n / 64 ^ count) :: (trailings count n ++ y) := by
  have hle : m / 64 ^ count ≤ n / 64 ^ count := Nat.div_le_div_right (Nat.le_of_lt hlt)
  rcases Nat.lt_or_eq_of_le hle with hdigit | hdigit
  · exact cons_lt_cons_of_lt (by omega) hn _ _
  · rw [hdigit]
    exact List.cons_lt_cons_iff.mpr (Or.inr ⟨rfl, trailings_lt hlt hdigit x y⟩)

/-- The first bytes of a shape lie below those of the shapes with more bytes. -/
theorem first_lt_of_shape_ne {a b : Char} (h : a < b) (hshape : shape a ≠ shape b) :
    (shape a).2 + a.toNat / 64 ^ (shape a).1 < (shape b).2 + b.toNat / 64 ^ (shape b).1 := by
  have hlt : a.toNat < b.toNat := h
  rcases shape_cases a with ⟨ha, hn⟩ | ⟨ha, hn⟩ | ⟨ha, hn⟩ | ⟨ha, hn⟩ <;>
    rcases shape_cases b with ⟨hb, hm⟩ | ⟨hb, hm⟩ | ⟨hb, hm⟩ | ⟨hb, hm⟩ <;>
    rw [ha, hb] at hshape ⊢ <;> simp at hshape ⊢ <;> omega

theorem encodeChar_append_lt {a b : Char} (h : a < b) (x y : Bytes) :
    encodeChar a ++ x < encodeChar b ++ y := by
  rw [encodeChar_eq, encodeChar_eq, List.cons_append, List.cons_append]
  by_cases hshape : shape a = shape b
  · rw [hshape]
    exact first_lt h (first_lt_256 b) x y
  · exact cons_lt_cons_of_lt (first_lt_of_shape_ne h hshape) (first_lt_256 b) _ _

/-! ### Texts -/

/-- **Of two texts the one that comes first has the bytes that come first.** -/
theorem encode_lt_encode {s t : Text} (hle : Text.le s t = true) (hne : s ≠ t) :
    encode s < encode t := by
  induction s generalizing t with
  | nil =>
      obtain ⟨c, t, rfl⟩ := List.exists_cons_of_ne_nil hne.symm
      rw [encode, encode, List.flatMap_nil, List.flatMap_cons, encodeChar_eq, List.cons_append]
      exact List.nil_lt_cons _ _
  | cons a s ih =>
      cases t with
      | nil => simp [Text.le] at hle
      | cons b t =>
          rw [encode, encode, List.flatMap_cons, List.flatMap_cons]
          rw [Text.le] at hle
          by_cases hab : a = b
          · subst hab
            rw [if_pos rfl] at hle
            exact List.append_left_lt (ih hle fun hst => hne (by rw [hst]))
          · rw [if_neg hab, decide_eq_true_eq] at hle
            exact encodeChar_append_lt hle _ _

end AnnotationLog.Utf8
