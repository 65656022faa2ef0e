/-
Dates in a text.

Only digits and slashes are ever erased.  So any other character keeps what stands
before it and what stands behind it apart, and is itself counted as often before
as after.

The text of a day is erased whole when its year has four digits, whatever follows it.
With a sign before the year it is no date, nothing of it is erased, and the day can
be read off it again.
-/
import AnnotationLog.Date
import AnnotationLog.Proofs.Text.Replace

namespace AnnotationLog

namespace Text

/-! ### Numbers as digits -/

theorem isDigit_of_mem_ofNat {n : Nat} {c : Char} (h : c ∈ ofNat n) : isDigit c = true := by
  have hdigit := Nat.isDigit_of_mem_toDigits (by decide) (by decide) h
  simp only [Char.isDigit, Bool.and_eq_true, decide_eq_true_eq] at hdigit
  simp only [isDigit, Bool.and_eq_true, decide_eq_true_eq, Char.le_def]
  exact hdigit

theorem isDigit_of_mem_ofNatPadded {width n : Nat} {c : Char} (h : c ∈ ofNatPadded width n) :
    isDigit c = true := by
  rcases List.mem_append.mp h with h | h
  · rw [(List.mem_replicate.mp h).2]
    decide
  · exact isDigit_of_mem_ofNat h

theorem length_ofNatPadded {width n : Nat} (hle : (ofNat n).length ≤ width) :
    (ofNatPadded width n).length = width := by
  simp only [ofNatPadded, List.length_append, List.length_replicate]
  omega

theorem ofNatPadded_ne_nil (width n : Nat) : ofNatPadded width n ≠ [] := by
  intro h
  exact Nat.toDigits_ne_nil (List.append_eq_nil_iff.mp h).2

theorem ofNatPadded_injective {width m n : Nat} (h : ofNatPadded width m = ofNatPadded width n) :
    m = n := by
  have hread : ∀ k, Nat.ofDigitChars 10 (ofNatPadded width k) 0 = k := by
    intro k
    rw [ofNatPadded, Nat.ofDigitChars_append, Nat.ofDigitChars_replicate_zero, Nat.mul_zero,
      ofNat, Nat.ofDigitChars_ten_toDigits]
  rw [← hread m, h, hread n]

end Text

/-! ### What is erased -/

/-- A character that a date can have. -/
def isDateChar (c : Char) : Bool :=
  Text.isDigit c || c == '/'

/-- Two digits, two digits and four digits with slashes between them. -/
def IsDate (p : Text) : Prop :=
  ∃ day month year, p = day ++ '/' :: (month ++ '/' :: year) ∧
    day.length = 2 ∧ month.length = 2 ∧ year.length = 4 ∧
    ∀ c ∈ day ++ (month ++ year), Text.isDigit c = true

theorem IsDate.length {p : Text} (h : IsDate p) : p.length = dateLength := by
  obtain ⟨day, month, year, rfl, hday, hmonth, hyear, -⟩ := h
  simp [hday, hmonth, hyear, dateLength]

theorem IsDate.slash_mem {p : Text} (h : IsDate p) : '/' ∈ p := by
  obtain ⟨day, month, year, rfl, -⟩ := h
  simp

theorem IsDate.isDateChar {p : Text} (h : IsDate p) : ∀ c ∈ p, isDateChar c = true := by
  obtain ⟨day, month, year, rfl, -, -, -, hdigit⟩ := h
  intro c hc
  have hmem : c = '/' ∨ c ∈ day ++ (month ++ year) := by
    simp only [List.mem_append, List.mem_cons] at hc ⊢
    rcases hc with h | h | h | h | h
    · exact Or.inr (Or.inl h)
    · exact Or.inl h
    · exact Or.inr (Or.inr (Or.inl h))
    · exact Or.inl h
    · exact Or.inr (Or.inr (Or.inr h))
  rcases hmem with rfl | hmem
  · decide
  · simp [AnnotationLog.isDateChar, hdigit c hmem]

theorem startsWithDate_iff {t : Text} :
    startsWithDate t = true ↔ ∃ p, IsDate p ∧ p <+: t := by
  constructor
  · intro h
    unfold startsWithDate at h
    split at h
    · rename_i d₁ d₂ s₁ m₁ m₂ s₂ y₁ y₂ y₃ y₄ rest
      simp only [Bool.and_eq_true, List.all_eq_true, beq_iff_eq] at h
      obtain ⟨⟨hdigit, rfl⟩, rfl⟩ := h
      exact ⟨_, ⟨[d₁, d₂], [m₁, m₂], [y₁, y₂, y₃, y₄], rfl, rfl, rfl, rfl, hdigit⟩, rest, rfl⟩
    · simp at h
  · rintro ⟨p, ⟨day, month, year, rfl, hday, hmonth, hyear, hdigit⟩, rest, rfl⟩
    obtain ⟨d₁, d₂, rfl⟩ := List.length_eq_two.mp hday
    obtain ⟨m₁, m₂, rfl⟩ := List.length_eq_two.mp hmonth
    match year, hyear with
    | [y₁, y₂, y₃, y₄], _ =>
      simp only [List.cons_append, List.nil_append, startsWithDate, Bool.and_eq_true,
        List.all_eq_true, beq_self_eq_true, and_true]
      exact hdigit

theorem eraseDates_nil : eraseDates [] = [] := by
  rw [eraseDates]

theorem eraseDates_cons_of_not {c : Char} {t : Text} (h : ∀ p, IsDate p → ¬ p <+: c :: t) :
    eraseDates (c :: t) = c :: eraseDates t := by
  rw [eraseDates, if_neg]
  intro hdate
  obtain ⟨p, hp, hbegins⟩ := startsWithDate_iff.mp hdate
  exact h p hp hbegins

theorem eraseDates_append {p : Text} (hp : IsDate p) (rest : Text) :
    eraseDates (p ++ rest) = eraseDates rest := by
  have hlength := hp.length
  cases p with
  | nil => simp [dateLength] at hlength
  | cons c p =>
      have hdrop : (p ++ rest).drop (dateLength - 1) = (c :: p ++ rest).drop dateLength := rfl
      have hdate := startsWithDate_iff.mpr ⟨c :: p, hp, List.prefix_append _ rest⟩
      rw [List.cons_append] at hdate
      rw [List.cons_append, eraseDates, if_pos hdate, hdrop, ← hlength, List.drop_left]

/-- A text is read from the front: a date at a time, or else a character. -/
@[elab_as_elim]
theorem date_induction {motive : Text → Prop} (nil : motive [])
    (date : ∀ p rest, IsDate p → motive rest → motive (p ++ rest))
    (char : ∀ c rest, (∀ p, IsDate p → ¬ p <+: c :: rest) → motive rest → motive (c :: rest))
    (t : Text) : motive t := by
  induction hn : t.length using Nat.strong_induction_on generalizing t with
  | _ n ih =>
    cases t with
    | nil => exact nil
    | cons c rest =>
        by_cases h : ∃ p, IsDate p ∧ p <+: c :: rest
        · obtain ⟨p, hp, tail, htail⟩ := h
          have hlt : tail.length < n := by
            rw [← hn, ← htail, List.length_append, hp.length, dateLength]
            omega
          rw [← htail]
          exact date p tail hp (ih _ hlt tail rfl)
        · have hlt : rest.length < n := by
            rw [← hn, List.length_cons]
            omega
          exact char c rest (fun p hp hbegins => h ⟨p, hp, hbegins⟩) (ih _ hlt rest rfl)

theorem eraseDates_eq_self {t : Text} (h : ∀ p, IsDate p → ¬ p <:+: t) : eraseDates t = t := by
  induction t with
  | nil => exact eraseDates_nil
  | cons c t ih =>
      have hfront : ∀ p, IsDate p → ¬ p <+: c :: t := fun p hp hbegins => h p hp hbegins.isInfix
      have hbehind : ∀ p, IsDate p → ¬ p <:+: t :=
        fun p hp hinside => h p hp (hinside.trans (List.suffix_cons c t).isInfix)
      rw [eraseDates_cons_of_not hfront, ih hbehind]

/-- A character that no date has keeps the texts around it apart. -/
theorem eraseDates_append_cons {c : Char} (hc : isDateChar c = false) (x y : Text) :
    eraseDates (x ++ c :: y) = eraseDates x ++ c :: eraseDates y := by
  have hfront : ∀ z p, IsDate p → p <+: z ++ c :: y → p <+: z := by
    intro z p hp
    refine Text.prefix_of_append_of_notMem fun hmem => ?_
    rw [hp.isDateChar c hmem] at hc
    simp at hc
  induction x using date_induction with
  | nil =>
      have hnot : ∀ p, IsDate p → ¬ p <+: c :: y := by
        intro p hp hbegins
        have hnil := List.prefix_nil.mp (hfront [] p hp hbegins)
        exact absurd hp.slash_mem (by simp [hnil])
      rw [List.nil_append, eraseDates_nil, eraseDates_cons_of_not hnot, List.nil_append]
  | date p rest hp ih =>
      rw [List.append_assoc, eraseDates_append hp, eraseDates_append hp, ih]
  | char d rest hnot ih =>
      have hnot' : ∀ p, IsDate p → ¬ p <+: d :: (rest ++ c :: y) :=
        fun p hp hbegins => hnot p hp (hfront (d :: rest) p hp hbegins)
      rw [List.cons_append, eraseDates_cons_of_not hnot', eraseDates_cons_of_not hnot, ih,
        List.cons_append]

theorem eraseDates_cons {c : Char} (hc : isDateChar c = false) (t : Text) :
    eraseDates (c :: t) = c :: eraseDates t := by
  simpa [eraseDates_nil] using eraseDates_append_cons hc [] t

/-- A character that no date has is never erased. -/
theorem count_eraseDates {a : Char} (ha : isDateChar a = false) (t : Text) :
    (eraseDates t).count a = t.count a := by
  induction t using date_induction with
  | nil => rw [eraseDates_nil]
  | date p rest hp ih =>
      have hp0 : p.count a = 0 := by
        rw [List.count_eq_zero]
        intro hmem
        rw [hp.isDateChar a hmem] at ha
        simp at ha
      rw [eraseDates_append hp, ih, List.count_append, hp0, Nat.zero_add]
  | char c rest hnot ih =>
      rw [eraseDates_cons_of_not hnot, List.count_cons, List.count_cons, ih]

theorem mem_eraseDates_iff {a : Char} (ha : isDateChar a = false) {t : Text} :
    a ∈ eraseDates t ↔ a ∈ t := by
  rw [← List.count_pos_iff, count_eraseDates ha, List.count_pos_iff]

/-! ### The text of a day -/

deriving instance DecidableEq for Date

namespace Date

/-- A year that is written with four digits and no sign. -/
def Plain (d : Date) : Prop :=
  0 ≤ d.year ∧ d.year ≤ 9999

instance (d : Date) : Decidable d.Plain :=
  inferInstanceAs (Decidable (_ ∧ _))

theorem length_day_le (d : Date) : (Text.ofNat d.day).length ≤ 2 := by
  have h := d.day_le
  have hmax : daysInMonth d.year d.month ≤ 31 := by
    unfold daysInMonth
    split <;> (try split) <;> omega
  exact (Nat.length_toDigits_le_iff (by decide) (by decide)).mpr (by omega)

theorem length_month_le (d : Date) : (Text.ofNat d.month).length ≤ 2 := by
  have h := d.month_le
  exact (Nat.length_toDigits_le_iff (by decide) (by decide)).mpr (by omega)

/-- The day, the month and the year of a text of a day, each of a fixed length but the last. -/
theorem text_parts (d : Date) : ∃ day month,
    d.text = day ++ '/' :: (month ++ '/' :: yearText d.year) ∧
    day = Text.ofNatPadded 2 d.day ∧ month = Text.ofNatPadded 2 d.month ∧
    day.length = 2 ∧ month.length = 2 :=
  ⟨_, _, by simp [text], rfl, rfl, Text.length_ofNatPadded d.length_day_le,
    Text.length_ofNatPadded d.length_month_le⟩

theorem yearText_plain {d : Date} (h : d.Plain) :
    yearText d.year = Text.ofNatPadded 4 d.year.natAbs := by
  rw [yearText, if_neg (by have := h.1; omega), if_pos h.2]

/-- Outside the plain years there is a sign, which tells the two sides apart. -/
theorem yearText_signed {d : Date} (h : ¬ d.Plain) :
    ∃ sign, yearText d.year = sign :: Text.ofNatPadded 4 d.year.natAbs ∧
      (sign = '-' ∧ d.year < 0 ∨ sign = '+' ∧ 9999 < d.year) := by
  unfold yearText
  by_cases hneg : d.year < 0
  · exact ⟨'-', by rw [if_pos hneg], Or.inl ⟨rfl, hneg⟩⟩
  · have hbig : ¬ d.year ≤ 9999 := fun hle => h ⟨by omega, hle⟩
    exact ⟨'+', by rw [if_neg hneg, if_neg hbig], Or.inr ⟨rfl, by omega⟩⟩

theorem isDate_text {d : Date} (h : d.Plain) : IsDate d.text := by
  obtain ⟨day, month, htext, hday, hmonth, hlday, hlmonth⟩ := d.text_parts
  have hlyear : (Text.ofNatPadded 4 d.year.natAbs).length = 4 := by
    have h1 := h.1
    have h2 := h.2
    exact Text.length_ofNatPadded
      ((Nat.length_toDigits_le_iff (by decide) (by decide)).mpr (by omega))
  rw [yearText_plain h] at htext
  refine ⟨day, month, _, htext, hlday, hlmonth, hlyear, ?_⟩
  intro c hc
  rcases List.mem_append.mp hc with hmem | hc
  · exact Text.isDigit_of_mem_ofNatPadded (hday ▸ hmem)
  rcases List.mem_append.mp hc with hmem | hmem
  · exact Text.isDigit_of_mem_ofNatPadded (hmonth ▸ hmem)
  · exact Text.isDigit_of_mem_ofNatPadded hmem

theorem eraseDates_text_plain {d : Date} (h : d.Plain) : eraseDates d.text = [] := by
  have hrest := eraseDates_append (isDate_text h) []
  rwa [List.append_nil, eraseDates_nil] at hrest

theorem eraseDates_text_signed {d : Date} (h : ¬ d.Plain) : eraseDates d.text = d.text := by
  obtain ⟨day, month, htext, -, -, hlday, hlmonth⟩ := d.text_parts
  obtain ⟨sign, hyear, hsign⟩ := yearText_signed h
  have hc : isDateChar sign = false := by
    rcases hsign with ⟨rfl, -⟩ | ⟨rfl, -⟩ <;> decide
  -- Before the sign there are too few characters for a date, and behind it no slash.
  have hbefore : ∀ p, IsDate p → ¬ p <:+: day ++ '/' :: (month ++ ['/']) := by
    intro p hp hinside
    have hlen := hinside.length_le
    rw [hp.length] at hlen
    simp [dateLength, hlday, hlmonth] at hlen
  have hbehind : ∀ p, IsDate p → ¬ p <:+: Text.ofNatPadded 4 d.year.natAbs := by
    intro p hp hinside
    have := Text.isDigit_of_mem_ofNatPadded (hinside.subset hp.slash_mem)
    exact absurd this (by decide)
  have hcut : d.text = (day ++ '/' :: (month ++ ['/'])) ++
      sign :: Text.ofNatPadded 4 d.year.natAbs := by
    rw [htext, hyear]
    simp
  rw [hcut, eraseDates_append_cons hc, eraseDates_eq_self hbefore, eraseDates_eq_self hbehind]

theorem year_of_yearText {d e : Date} (hd : ¬ d.Plain) (he : ¬ e.Plain)
    (h : yearText d.year = yearText e.year) : d.year = e.year := by
  obtain ⟨sign, hyear, hsign⟩ := yearText_signed hd
  obtain ⟨sign', hyear', hsign'⟩ := yearText_signed he
  rw [hyear, hyear', List.cons.injEq] at h
  have habs := Text.ofNatPadded_injective h.2
  rcases hsign with ⟨rfl, hneg⟩ | ⟨rfl, hpos⟩ <;> rcases hsign' with ⟨rfl, hneg'⟩ | ⟨rfl, hpos'⟩
  · omega
  · exact absurd h.1 (by decide)
  · exact absurd h.1 (by decide)
  · omega

theorem text_injective_signed {d e : Date} (hd : ¬ d.Plain) (he : ¬ e.Plain)
    (h : d.text = e.text) : d = e := by
  obtain ⟨day, month, htext, hday, hmonth, hlday, hlmonth⟩ := d.text_parts
  obtain ⟨day', month', htext', hday', hmonth', hlday', hlmonth'⟩ := e.text_parts
  rw [htext, htext'] at h
  obtain ⟨hdays, h⟩ := List.append_inj h (hlday.trans hlday'.symm)
  obtain ⟨hmonths, h⟩ := List.append_inj (List.cons.inj h).2 (hlmonth.trans hlmonth'.symm)
  have hyear := year_of_yearText hd he (List.cons.inj h).2
  have hdayeq : d.day = e.day := Text.ofNatPadded_injective (hday ▸ hday' ▸ hdays)
  have hmontheq : d.month = e.month := Text.ofNatPadded_injective (hmonth ▸ hmonth' ▸ hmonths)
  cases d
  cases e
  simp_all

/-- **Two days leave the same text when their dates are erased exactly if they are the same or
both years are plain.** -/
theorem eraseDates_text_eq_iff {d e : Date} :
    eraseDates d.text = eraseDates e.text ↔ d = e ∨ d.Plain ∧ e.Plain := by
  have hne : ∀ d : Date, d.text ≠ [] := by
    intro d
    obtain ⟨day, month, htext, -⟩ := d.text_parts
    simp [htext]
  by_cases hd : d.Plain <;> by_cases he : e.Plain
  · simp [eraseDates_text_plain hd, eraseDates_text_plain he, hd, he]
  · rw [eraseDates_text_plain hd, eraseDates_text_signed he]
    refine iff_of_false (fun h => hne e h.symm) ?_
    rintro (rfl | h)
    · exact he hd
    · exact he h.2
  · rw [eraseDates_text_signed hd, eraseDates_text_plain he]
    refine iff_of_false (hne d) ?_
    rintro (rfl | h)
    · exact hd he
    · exact hd h.1
  · rw [eraseDates_text_signed hd, eraseDates_text_signed he]
    constructor
    · exact fun h => Or.inl (text_injective_signed hd he h)
    · rintro (rfl | h)
      · rfl
      · exact absurd h.1 hd

/-- A day in front of a text is erased without a trace exactly if its year is plain. -/
theorem eraseDates_text_append_iff (d : Date) (rest : Text) :
    eraseDates (d.text ++ rest) = eraseDates rest ↔ d.Plain := by
  by_cases hplain : d.Plain
  · exact iff_of_true (eraseDates_append (isDate_text hplain) rest) hplain
  · refine iff_of_false ?_ hplain
    intro h
    -- The sign of the year is never erased, so there is one more of it than in the rest.
    obtain ⟨day, month, htext, -⟩ := d.text_parts
    obtain ⟨sign, hyear, hsign⟩ := yearText_signed hplain
    have hc : isDateChar sign = false := by
      rcases hsign with ⟨rfl, -⟩ | ⟨rfl, -⟩ <;> decide
    have hmem : 0 < d.text.count sign := by
      rw [List.count_pos_iff, htext, hyear]
      simp
    have hcount := congrArg (List.count sign) h
    rw [count_eraseDates hc, count_eraseDates hc, List.count_append] at hcount
    omega

/-- A day begins with a digit and has no other characters than digits, slashes and signs. -/
theorem text_chars (d : Date) :
    (∃ c more, d.text = c :: more ∧ Text.isDigit c = true) ∧
      ∀ c ∈ d.text, isDateChar c = true ∨ c = '-' ∨ c = '+' := by
  obtain ⟨day, month, htext, hday, hmonth, -, -⟩ := d.text_parts
  constructor
  · obtain ⟨c, more, hc⟩ := List.exists_cons_of_ne_nil (Text.ofNatPadded_ne_nil 2 d.day)
    refine ⟨c, _, by rw [htext, hday, hc]; rfl, ?_⟩
    exact Text.isDigit_of_mem_ofNatPadded (hc ▸ List.mem_cons_self)
  · have hdigits : ∀ width n, ∀ c ∈ Text.ofNatPadded width n, isDateChar c = true := by
      intro width n c hc
      simp [isDateChar, Text.isDigit_of_mem_ofNatPadded hc]
    have hyear : ∀ c ∈ yearText d.year, isDateChar c = true ∨ c = '-' ∨ c = '+' := by
      intro c hc
      by_cases hplain : d.Plain
      · rw [yearText_plain hplain] at hc
        exact Or.inl (hdigits _ _ c hc)
      · obtain ⟨sign, hy, hsign⟩ := yearText_signed hplain
        rw [hy] at hc
        rcases List.mem_cons.mp hc with rfl | hc
        · rcases hsign with ⟨h, -⟩ | ⟨h, -⟩
          · exact Or.inr (Or.inl h)
          · exact Or.inr (Or.inr h)
        · exact Or.inl (hdigits _ _ c hc)
    intro c hc
    rw [htext] at hc
    simp only [List.mem_append, List.mem_cons] at hc
    rcases hc with hc | rfl | hc | rfl | hc
    · exact Or.inl (hdigits _ _ c (hday ▸ hc))
    · exact Or.inl (by decide)
    · exact Or.inl (hdigits _ _ c (hmonth ▸ hc))
    · exact Or.inl (by decide)
    · exact hyear c hc

end Date

/-- **Erasing dates is local, and agrees with the way days are written.**  A character that is
neither a digit nor a slash keeps the texts around it apart, and a day is erased whatever follows
it exactly if its year lies between 0 and 9999. -/
theorem eraseDates_local_and_text_iff :
    (∀ (a b : Text) (c : Char), Text.isDigit c = false → c ≠ '/' →
      eraseDates (a ++ c :: b) = eraseDates a ++ c :: eraseDates b) ∧
    ∀ d : Date, (∀ b, eraseDates (d.text ++ b) = eraseDates b) ↔ 0 ≤ d.year ∧ d.year ≤ 9999 := by
  refine ⟨fun a b c hdigit hslash => ?_, fun d => ?_⟩
  · have hc : isDateChar c = false := by simp [isDateChar, hdigit, hslash]
    exact eraseDates_append_cons hc a b
  · constructor
    · exact fun h => (Date.eraseDates_text_append_iff d []).mp (h [])
    · exact fun hplain b => (Date.eraseDates_text_append_iff d b).mpr hplain

/-- From the last plain day back to the first. -/
theorem eraseDates_local_and_text_iff_span :
    Text.isDigit '-' = false ∧ '-' ≠ '/' ∧
      eraseDates "31/12/9999-01/01/0000".toList = ['-'] := by
  have hdigit : Text.isDigit '-' = false := by decide
  obtain ⟨hlocal, herased⟩ := eraseDates_local_and_text_iff
  let last : Date := ⟨9999, 12, 31, by decide, by decide, by decide, by decide, by decide, by decide⟩
  let first : Date := ⟨0, 1, 1, by decide, by decide, by decide, by decide, by decide, by decide⟩
  have hlast : eraseDates (last.text ++ []) = eraseDates [] :=
    (herased last).mpr ⟨by decide, by decide⟩ []
  have hfirst : eraseDates (first.text ++ []) = eraseDates [] :=
    (herased first).mpr ⟨by decide, by decide⟩ []
  have hspan : "31/12/9999-01/01/0000".toList =
      (last.text ++ []) ++ '-' :: (first.text ++ []) := by decide
  refine ⟨hdigit, by decide, ?_⟩
  rw [hspan, hlocal _ _ '-' hdigit (by decide), hlast, hfirst, eraseDates_nil, List.nil_append]

end AnnotationLog
