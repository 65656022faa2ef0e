/-
Exchanging a piece of a text.

`replaceAll` reads from left to right, so what it does behind a place depends on
the text before it only through an occurrence that reaches over the place.
`StartsIn` says that there is one that begins in the first of two texts.  Where
none does, the first text is left as it is.

Where one does and the new piece is longer than the old, the result is longer than
it would be without it; this is what tells the two cases apart later.
-/
import AnnotationLog.Proofs.Text.Basic

namespace AnnotationLog.Text

variable {piece new t x y : Text}

theorem replaceAll_nil (piece new : Text) : replaceAll piece new [] = [] := by
  rw [replaceAll]

theorem replaceAll_append_left (hpiece : piece ≠ []) (new t : Text) :
    replaceAll piece new (piece ++ t) = new ++ replaceAll piece new t := by
  obtain ⟨c, body, rfl⟩ := List.exists_cons_of_ne_nil hpiece
  rw [List.cons_append, replaceAll, if_pos, List.length_cons, Nat.add_sub_cancel, List.drop_left]
  rw [← List.cons_append, startsWith_append]
  rfl

theorem replaceAll_cons_of_not {c : Char} (h : ¬ piece <+: c :: t) :
    replaceAll piece new (c :: t) = c :: replaceAll piece new t := by
  rw [replaceAll, if_neg]
  intro hc
  rw [Bool.and_eq_true] at hc
  exact h (startsWith_iff.mp hc.2)

/-- A text is read from the front: one of some pieces at a time, or else a character. -/
@[elab_as_elim]
theorem pieces_induction {pieces : List Text} (hpieces : ∀ piece ∈ pieces, piece ≠ [])
    {motive : Text → Prop} (nil : motive [])
    (piece : ∀ piece ∈ pieces, ∀ rest, motive rest → motive (piece ++ rest))
    (char : ∀ c rest, (∀ piece ∈ pieces, ¬ piece <+: c :: rest) → motive rest →
      motive (c :: rest)) (t : Text) : motive t := by
  induction hn : t.length using Nat.strong_induction_on generalizing t with
  | _ n ih =>
    cases t with
    | nil => exact nil
    | cons c rest =>
        by_cases h : ∃ piece ∈ pieces, piece <+: c :: rest
        · obtain ⟨p, hp, tail, htail⟩ := h
          have hlt : tail.length < n := by
            have := List.length_pos_iff.mpr (hpieces p hp)
            rw [← hn, ← htail, List.length_append]
            omega
          rw [← htail]
          exact piece p hp tail (ih _ hlt tail rfl)
        · have hlt : rest.length < n := by
            rw [← hn, List.length_cons]
            omega
          refine char c rest ?_ (ih _ hlt rest rfl)
          intro p hp hbegins
          exact h ⟨p, hp, hbegins⟩

@[elab_as_elim]
theorem occurrence_induction {piece : Text} (hpiece : piece ≠ []) {motive : Text → Prop}
    (nil : motive []) (occurrence : ∀ rest, motive rest → motive (piece ++ rest))
    (char : ∀ c rest, ¬ piece <+: c :: rest → motive rest → motive (c :: rest)) (t : Text) :
    motive t := by
  have hpieces : ∀ p ∈ [piece], p ≠ [] := by simpa using hpiece
  induction t using pieces_induction hpieces with
  | nil => exact nil
  | piece p hp rest ih =>
      rw [List.mem_singleton.mp hp]
      exact occurrence rest ih
  | char c rest hnot ih => exact char c rest (hnot piece List.mem_cons_self) ih

/-! ### Texts that no occurrence begins in -/

/-- An occurrence of the piece in `x ++ t` begins in `x`. -/
def StartsIn (piece x t : Text) : Prop :=
  ∃ y, y ≠ [] ∧ y <:+ x ∧ piece <+: y ++ t

theorem not_startsIn_nil (piece t : Text) : ¬ StartsIn piece [] t := by
  rintro ⟨y, hne, hsuffix, -⟩
  exact hne (List.suffix_nil.mp hsuffix)

theorem startsIn_cons {c : Char} :
    StartsIn piece (c :: x) t ↔ piece <+: c :: (x ++ t) ∨ StartsIn piece x t := by
  constructor
  · rintro ⟨y, hne, hsuffix, hbegins⟩
    rcases List.suffix_cons_iff.mp hsuffix with rfl | hsuffix
    · exact Or.inl hbegins
    · exact Or.inr ⟨y, hne, hsuffix, hbegins⟩
  · rintro (hbegins | ⟨y, hne, hsuffix, hbegins⟩)
    · exact ⟨c :: x, by simp, List.suffix_rfl, hbegins⟩
    · exact ⟨y, hne, hsuffix.trans (List.suffix_cons c x), hbegins⟩

theorem replaceAll_append_of_not_startsIn (h : ¬ StartsIn piece x t) :
    replaceAll piece new (x ++ t) = x ++ replaceAll piece new t := by
  induction x with
  | nil => rfl
  | cons c x ih =>
      rw [startsIn_cons, not_or] at h
      rw [List.cons_append, replaceAll_cons_of_not h.1, ih h.2, List.cons_append]

/-- No occurrence begins in a text without the first character of the piece. -/
theorem not_startsIn_of_notMem {c : Char} {body : Text} (hc : c ∉ x) :
    ¬ StartsIn (c :: body) x t := by
  rintro ⟨y, hne, hsuffix, hbegins⟩
  obtain ⟨d, y, rfl⟩ := List.exists_cons_of_ne_nil hne
  rw [List.cons_append, List.cons_prefix_cons] at hbegins
  exact hc (hbegins.1 ▸ hsuffix.subset List.mem_cons_self)

/-- An occurrence in two texts begins in the first or lies in the second. -/
theorem infix_append_iff : piece <:+: x ++ t ↔ StartsIn piece x t ∨ piece <:+: t := by
  induction x with
  | nil => simp [not_startsIn_nil]
  | cons c x ih => rw [List.cons_append, List.infix_cons_iff, ih, startsIn_cons, or_assoc]

/-- A text without the first character of the piece is left as it is. -/
theorem replaceAll_append_of_notMem {c : Char} {body : Text} (hc : c ∉ x) :
    replaceAll (c :: body) new (x ++ t) = x ++ replaceAll (c :: body) new t :=
  replaceAll_append_of_not_startsIn (not_startsIn_of_notMem hc)

/-! ### Texts that no occurrence reaches into -/

/-- If no occurrence reaches from the first text into the second, both are read on their own. -/
theorem replaceAll_append_of_apart (hpiece : piece ≠ [])
    (h : ∀ z, piece <+: z ++ y → piece <+: z) :
    replaceAll piece new (x ++ y) = replaceAll piece new x ++ replaceAll piece new y := by
  induction x using occurrence_induction hpiece with
  | nil => rw [replaceAll_nil, List.nil_append, List.nil_append]
  | occurrence rest ih =>
      rw [List.append_assoc, replaceAll_append_left hpiece, replaceAll_append_left hpiece, ih,
        List.append_assoc]
  | char c rest hnot ih =>
      have hnot' : ¬ piece <+: c :: (rest ++ y) := fun hc => hnot (h (c :: rest) hc)
      rw [List.cons_append, replaceAll_cons_of_not hnot', replaceAll_cons_of_not hnot, ih,
        List.cons_append]

theorem prefix_of_append_of_notMem {c : Char} (hc : c ∉ piece)
    (h : piece <+: x ++ c :: y) : piece <+: x := by
  rcases prefix_append_cases h with hx | ⟨r, hr, rfl, hry⟩
  · exact hx
  · obtain ⟨d, r, rfl⟩ := List.exists_cons_of_ne_nil hr
    rw [List.cons_prefix_cons] at hry
    exact absurd (by simp [hry.1]) hc

/-- A character that the piece does not have keeps the texts around it apart. -/
theorem replaceAll_append_cons (hpiece : piece ≠ []) {c : Char} (hc : c ∉ piece) :
    replaceAll piece new (x ++ c :: y) =
      replaceAll piece new x ++ c :: replaceAll piece new y := by
  have hapart : ∀ z, piece <+: z ++ c :: y → piece <+: z :=
    fun z => prefix_of_append_of_notMem hc
  have hfront : ¬ piece <+: c :: y :=
    fun h => hpiece (List.prefix_nil.mp (hapart [] h))
  rw [replaceAll_append_of_apart hpiece hapart, replaceAll_cons_of_not hfront]

theorem replaceAll_eq_self (h : ¬ piece <:+: t) : replaceAll piece new t = t := by
  have hnot : ¬ StartsIn piece t [] := by
    intro hin
    have hinfix : piece <:+: t ++ [] := infix_append_iff.mpr (Or.inl hin)
    exact h (List.append_nil t ▸ hinfix)
  have hkept : replaceAll piece new (t ++ []) = t ++ replaceAll piece new [] :=
    replaceAll_append_of_not_startsIn hnot
  simpa [replaceAll_nil] using hkept

/-- What has none of the last character of the piece is left as it is at the end of a text. -/
theorem replaceAll_append_right {c : Char} {body : Text} (hc : c ∉ y) :
    replaceAll (body ++ [c]) new (x ++ y) = replaceAll (body ++ [c]) new x ++ y := by
  have hapart : ∀ z, body ++ [c] <+: z ++ y → body ++ [c] <+: z := by
    intro z hz
    rcases prefix_append_cases hz with hz | ⟨r, hr, hpiece, hry⟩
    · exact hz
    · have hlast : r.getLast? = some c := by
        rw [← List.getLast?_append_of_ne_nil z hr, ← hpiece, List.getLast?_concat]
      exact absurd (hry.subset (List.mem_of_getLast? hlast)) hc
  have hy : ¬ body ++ [c] <:+: y := fun h => hc (h.subset (by simp))
  rw [replaceAll_append_of_apart (by simp) hapart, replaceAll_eq_self hy]

/-! ### How long the result is

Here the piece has its first character nowhere else, so that no two occurrences
overlap.
-/

variable {c : Char} {body : Text}

/-- An occurrence that begins in `x` makes the result longer if the new piece is the longer. -/
theorem length_replaceAll_append (hbody : c ∉ body) (hlong : (c :: body).length < new.length)
    (x t : Text) :
    x.length + (replaceAll (c :: body) new t).length ≤
        (replaceAll (c :: body) new (x ++ t)).length ∧
      (StartsIn (c :: body) x t →
        x.length + (replaceAll (c :: body) new t).length <
          (replaceAll (c :: body) new (x ++ t)).length) := by
  induction hn : x.length using Nat.strong_induction_on generalizing x with
  | _ n ih =>
    cases x with
    | nil => exact ⟨by simp [← hn], fun h => absurd h (not_startsIn_nil _ _)⟩
    | cons d x =>
        by_cases h : c :: body <+: d :: x ++ t
        · -- The occurrence lies in `x` or ends in `t`; either way it starts here.
          suffices hlt : (d :: x).length + (replaceAll (c :: body) new t).length <
              (replaceAll (c :: body) new (d :: x ++ t)).length by
            rw [← hn]
            exact ⟨Nat.le_of_lt hlt, fun _ => hlt⟩
          rcases prefix_append_cases h with ⟨rest, hrest⟩ | ⟨r, hr, hpiece, tail, rfl⟩
          · have hshort : rest.length < n := by
              rw [← hn, ← hrest, List.length_append, List.length_cons]
              omega
            have hih := (ih _ hshort rest rfl).1
            rw [← hrest, List.append_assoc, replaceAll_append_left (by simp), List.length_append,
              List.length_append]
            omega
          · have hcr : c ∉ r := by
              rw [List.cons_append, List.cons.injEq] at hpiece
              intro hc
              exact hbody (hpiece.2 ▸ List.mem_append_right x hc)
            rw [replaceAll_append_of_notMem hcr, ← List.append_assoc, ← hpiece,
              replaceAll_append_left (by simp), List.length_append, List.length_append]
            rw [hpiece, List.length_append] at hlong
            omega
        · have hshort : x.length < n := by
            rw [← hn, List.length_cons]
            omega
          obtain ⟨hle, hlt⟩ := ih _ hshort x rfl
          rw [List.cons_append] at h
          rw [List.cons_append, replaceAll_cons_of_not h, startsIn_cons, List.length_cons, ← hn,
            List.length_cons]
          refine ⟨by omega, ?_⟩
          rintro (hbegins | hin)
          · exact absurd hbegins h
          · have := hlt hin
            omega

/-! ### What the result is made of -/

theorem mem_replaceAll {c : Char} (hpiece : piece ≠ []) (h : c ∈ replaceAll piece new t) :
    c ∈ new ∨ c ∈ t := by
  induction t using occurrence_induction hpiece with
  | nil =>
      rw [replaceAll_nil] at h
      exact Or.inr h
  | occurrence rest ih =>
      rw [replaceAll_append_left hpiece, List.mem_append] at h
      rcases h with h | h
      · exact Or.inl h
      · exact (ih h).imp_right (List.mem_append_right _)
  | char d rest hnot ih =>
      rw [replaceAll_cons_of_not hnot, List.mem_cons] at h
      rcases h with rfl | h
      · exact Or.inr List.mem_cons_self
      · exact (ih h).imp_right (List.mem_cons_of_mem _)

/-- A new piece with more of a character puts more of it in. -/
theorem count_replaceAll_le {a : Char} {new' : Text} (hpiece : piece ≠ [])
    (hnew : new.count a ≤ new'.count a) (t : Text) :
    (replaceAll piece new t).count a ≤ (replaceAll piece new' t).count a := by
  induction t using occurrence_induction hpiece with
  | nil => rw [replaceAll_nil, replaceAll_nil]
  | occurrence rest ih =>
      rw [replaceAll_append_left hpiece, replaceAll_append_left hpiece, List.count_append,
        List.count_append]
      omega
  | char c rest hnot ih =>
      rw [replaceAll_cons_of_not hnot, replaceAll_cons_of_not hnot, List.count_cons,
        List.count_cons]
      omega

end AnnotationLog.Text
