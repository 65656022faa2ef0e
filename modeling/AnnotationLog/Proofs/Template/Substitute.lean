/-
Exchanging pieces at once and one after another.

`substitute` puts in all replacements in one pass over the template: what was put
in is not read again.  Replacing one piece after another reads it again, and may
find a piece in it that the template does not have, or one that begins in it and
ends in the template.

All pieces here are markers, which have a brace at the front and no other.  So no
two of them overlap, a template is cut into markers and single characters in one
way, and both ways of replacing can be followed along it.  They agree as long as
no occurrence begins inside something put in; as soon as one does, and what it is
exchanged for is longer than the marker, the results have different lengths.
-/
import AnnotationLog.Proofs.Text.Replace

namespace AnnotationLog

/-- A piece of a template and what is put in its place. -/
structure Token where
  piece : Text
  new : Text
  deriving DecidableEq, Repr

/-- Exchanges all pieces in one pass from left to right; the first token in the list wins where
several apply. -/
def substitute (tokens : List Token) : Text → Text
  | [] => []
  | c :: cs =>
    match tokens.find? fun token =>
        !token.piece.isEmpty && Text.startsWith token.piece (c :: cs) with
    | some token => token.new ++ substitute tokens (cs.drop (token.piece.length - 1))
    | none => c :: substitute tokens cs
termination_by t => t.length
decreasing_by all_goals grind

/-- A marker has a brace at its front and no other. -/
def IsMarker (m : Text) : Prop :=
  ∃ body, m = '{' :: body ∧ '{' ∉ body

theorem IsMarker.ne_nil {m : Text} (h : IsMarker m) : m ≠ [] := by
  obtain ⟨body, rfl, -⟩ := h
  simp

variable {tokens : List Token} {last : Token} {t : Text}

/-! ### One step of the pass -/

theorem substitute_nil (tokens : List Token) : substitute tokens [] = [] := by
  rw [substitute]

theorem substitute_of_none {c : Char} (h : ∀ token ∈ tokens, ¬ token.piece <+: c :: t) :
    substitute tokens (c :: t) = c :: substitute tokens t := by
  have hnone : (tokens.find? fun token =>
      !token.piece.isEmpty && Text.startsWith token.piece (c :: t)) = none := by
    rw [List.find?_eq_none]
    intro token htoken hc
    rw [Bool.and_eq_true] at hc
    exact h token htoken (Text.startsWith_iff.mp hc.2)
  rw [substitute, hnone]

/-- Where a token applies, one of them does, whatever tokens are added behind the others. -/
theorem substitute_of_some (hne : ∀ token ∈ tokens, token.piece ≠ [])
    (h : ∃ token ∈ tokens, token.piece <+: t) :
    ∃ token ∈ tokens, ∃ rest, t = token.piece ++ rest ∧ ∀ more,
      substitute (tokens ++ more) t = token.new ++ substitute (tokens ++ more) rest := by
  obtain ⟨token, hfind⟩ : ∃ token, (tokens.find? fun token =>
      !token.piece.isEmpty && Text.startsWith token.piece t) = some token := by
    obtain ⟨token, htoken, hbegins⟩ := h
    rw [← Option.isSome_iff_exists, List.find?_isSome]
    refine ⟨token, htoken, ?_⟩
    rw [Text.startsWith_iff.mpr hbegins]
    simpa using hne token htoken
  have hmem := List.mem_of_find?_eq_some hfind
  have happlies := List.find?_some hfind
  simp only [Bool.and_eq_true] at happlies
  obtain ⟨rest, rfl⟩ := Text.startsWith_iff.mp happlies.2
  refine ⟨token, hmem, rest, rfl, fun more => ?_⟩
  obtain ⟨c, body, hpiece⟩ := List.exists_cons_of_ne_nil (hne token hmem)
  have hfind' : ((tokens ++ more).find? fun token =>
      !token.piece.isEmpty && Text.startsWith token.piece (c :: (body ++ rest))) = some token := by
    rw [List.find?_append, ← List.cons_append, ← hpiece, hfind]
    rfl
  rw [hpiece, List.cons_append, substitute, hfind']
  simp [hpiece]

/-- The tokens are markers of which none is at the front of another, and what they put in begins
with a character that the marker `m` does not have. -/
structure Fits (tokens : List Token) (m : Text) : Prop where
  marker : ∀ token ∈ tokens, IsMarker token.piece
  apart : ∀ token ∈ tokens, ∀ other ∈ tokens, token.piece <+: other.piece → token = other
  first : ∀ token ∈ tokens, ∃ c more, token.new = c :: more ∧ c ∉ m

theorem Fits.mono {tokens' : List Token} {m : Text} (h : Fits tokens m) (hsub : tokens' ⊆ tokens) :
    Fits tokens' m where
  marker token hmem := h.marker token (hsub hmem)
  apart token hmem other hother := h.apart token (hsub hmem) other (hsub hother)
  first token hmem := h.first token (hsub hmem)

/-- The pass does not change whether a text begins with a piece of a marker behind its brace. -/
theorem prefix_substitute_iff {m r : Text} (hfit : Fits tokens m) (hr : ∀ c ∈ r, c ∈ m)
    (hbrace : '{' ∉ r) : r <+: substitute tokens t ↔ r <+: t := by
  induction r generalizing t with
  | nil => simp
  | cons a r ih =>
      have ih' := ih (t := t.tail) (fun c hc => hr c (List.mem_cons_of_mem _ hc))
        (fun hc => hbrace (List.mem_cons_of_mem _ hc))
      by_cases htoken : ∃ token ∈ tokens, token.piece <+: t
      · -- Where a token applies, neither text begins with `a`.
        obtain ⟨token, hmem, rest, rfl, hsub⟩ :=
          substitute_of_some (fun token h => (hfit.marker token h).ne_nil) htoken
        have hsub' := hsub []
        rw [List.append_nil] at hsub'
        obtain ⟨body, hpiece, -⟩ := hfit.marker token hmem
        obtain ⟨c, more, hnew, hc⟩ := hfit.first token hmem
        have hca : a ≠ c := fun h => hc (h ▸ hr a List.mem_cons_self)
        have hba : a ≠ '{' := fun h => hbrace (h ▸ List.mem_cons_self)
        rw [hsub', hnew, hpiece, List.cons_append, List.cons_append, List.cons_prefix_cons,
          List.cons_prefix_cons]
        exact iff_of_false (fun h => hca h.1) (fun h => hba h.1)
      · cases t with
        | nil => rw [substitute_nil]
        | cons c t =>
            rw [substitute_of_none fun token hmem hbegins => htoken ⟨token, hmem, hbegins⟩,
              List.cons_prefix_cons, List.cons_prefix_cons]
            exact and_congr_right fun _ => ih'

theorem substitute_append_of_notMem {x : Text} (hmarker : ∀ token ∈ tokens, IsMarker token.piece)
    (hx : '{' ∉ x) : substitute tokens (x ++ t) = x ++ substitute tokens t := by
  induction x with
  | nil => rfl
  | cons c x ih =>
      have hnone : ∀ token ∈ tokens, ¬ token.piece <+: c :: (x ++ t) := by
        intro token hmem hbegins
        obtain ⟨body, hpiece, -⟩ := hmarker token hmem
        rw [hpiece, List.cons_prefix_cons] at hbegins
        exact hx (hbegins.1 ▸ List.mem_cons_self)
      rw [List.cons_append, substitute_of_none hnone,
        ih fun hc => hx (List.mem_cons_of_mem _ hc), List.cons_append]

/-! ### Where the pass stops

The pass with some tokens and the pass with one more stop at the same places: at a
token, at the additional one, or at a character that belongs to none.
-/

section Stops

variable (hfit : Fits tokens last.piece) (hlast : IsMarker last.piece)

include hfit

theorem substitute_token {token : Token} (hmem : token ∈ tokens) (more : List Token)
    (rest : Text) : substitute (tokens ++ more) (token.piece ++ rest) =
      token.new ++ substitute (tokens ++ more) rest := by
  obtain ⟨other, hother, rest', ht, hsub⟩ := substitute_of_some
    (fun token h => (hfit.marker token h).ne_nil) ⟨token, hmem, List.prefix_append _ rest⟩
  -- Both tokens stand at the front, so they are the same.
  have heq : token = other := by
    rcases List.prefix_or_prefix_of_prefix (List.prefix_append token.piece rest)
      (ht ▸ List.prefix_append other.piece rest') with h | h
    · exact hfit.apart token hmem other hother h
    · exact (hfit.apart other hother token hmem h).symm
  subst heq
  obtain rfl : rest = rest' := List.append_cancel_left ht
  exact hsub more

include hlast

theorem substitute_last {rest : Text}
    (hnone : ∀ token ∈ tokens, ¬ token.piece <+: last.piece ++ rest) :
    substitute tokens (last.piece ++ rest) = last.piece ++ substitute tokens rest ∧
      substitute (tokens ++ [last]) (last.piece ++ rest) =
        last.new ++ substitute (tokens ++ [last]) rest := by
  have hne : ∀ token ∈ tokens ++ [last], token.piece ≠ [] := by
    intro token hmem
    rcases List.mem_append.mp hmem with hmem | hmem
    · exact (hfit.marker token hmem).ne_nil
    · rw [List.mem_singleton.mp hmem]
      exact hlast.ne_nil
  constructor
  · obtain ⟨body, hpiece, hbody⟩ := hlast
    rw [hpiece, List.cons_append] at hnone ⊢
    rw [substitute_of_none hnone, substitute_append_of_notMem hfit.marker hbody, List.cons_append]
  · obtain ⟨token, hmem, rest', ht, hsub⟩ := substitute_of_some hne
      ⟨last, by simp, List.prefix_append _ rest⟩
    have heq : token = last := by
      rcases List.mem_append.mp hmem with hmem | hmem
      · exact absurd ⟨rest', ht.symm⟩ (hnone token hmem)
      · exact List.mem_singleton.mp hmem
    subst heq
    obtain rfl : rest = rest' := List.append_cancel_left ht
    simpa using hsub []

theorem substitute_char {c : Char} {rest : Text}
    (hnone : ∀ token ∈ tokens, ¬ token.piece <+: c :: rest) (hnot : ¬ last.piece <+: c :: rest) :
    substitute tokens (c :: rest) = c :: substitute tokens rest ∧
      substitute (tokens ++ [last]) (c :: rest) = c :: substitute (tokens ++ [last]) rest ∧
      ¬ last.piece <+: c :: substitute tokens rest := by
  refine ⟨substitute_of_none hnone, substitute_of_none fun token hmem => ?_, ?_⟩
  · rcases List.mem_append.mp hmem with hmem | hmem
    · exact hnone token hmem
    · rw [List.mem_singleton.mp hmem]
      exact hnot
  · obtain ⟨body, hpiece, hbody⟩ := hlast
    rw [hpiece, List.cons_prefix_cons,
      prefix_substitute_iff hfit (fun d hd => hpiece ▸ List.mem_cons_of_mem _ hd) hbody]
    rwa [hpiece, List.cons_prefix_cons] at hnot

@[elab_as_elim]
theorem marker_induction {motive : Text → Prop} (nil : motive [])
    (token : ∀ token ∈ tokens, ∀ rest, motive rest → motive (token.piece ++ rest))
    (more : ∀ rest, (∀ token ∈ tokens, ¬ token.piece <+: last.piece ++ rest) →
      motive rest → motive (last.piece ++ rest))
    (char : ∀ c rest, (∀ token ∈ tokens, ¬ token.piece <+: c :: rest) →
      ¬ last.piece <+: c :: rest → motive rest → motive (c :: rest)) (t : Text) : motive t := by
  induction hn : t.length using Nat.strong_induction_on generalizing t with
  | _ n ih =>
    have hstep : ∀ {m rest : Text}, m ≠ [] → m ++ rest = t → motive rest := by
      intro m rest hm ht
      refine ih rest.length ?_ rest rfl
      have := List.length_pos_iff.mpr hm
      rw [← hn, ← ht, List.length_append]
      omega
    by_cases htoken : ∃ token ∈ tokens, token.piece <+: t
    · obtain ⟨tok, hmem, rest, ht⟩ := htoken
      exact ht ▸ token tok hmem rest (hstep (hfit.marker tok hmem).ne_nil ht)
    have hnone : ∀ token ∈ tokens, ¬ token.piece <+: t :=
      fun token hmem hbegins => htoken ⟨token, hmem, hbegins⟩
    by_cases hfront : last.piece <+: t
    · obtain ⟨rest, ht⟩ := hfront
      exact ht ▸ more rest (ht.symm ▸ hnone) (hstep hlast.ne_nil ht)
    · cases t with
      | nil => exact nil
      | cons c rest => exact char c rest hnone hfront (hstep (m := [c]) (by simp) rfl)

end Stops

/-! ### Occurrences that begin in what was put in -/

/-- A marker `m` is found, when the text is read again, that begins in what one of the tokens put
in: whole inside it, or completed by the text behind the token. -/
def Expands (tokens : List Token) (m t : Text) : Prop :=
  ∃ token ∈ tokens, ∃ u v, t = u ++ (token.piece ++ v) ∧ Text.StartsIn m token.new v

theorem not_expands_nil {m : Text} (hfit : Fits tokens m) : ¬ Expands tokens m [] := by
  rintro ⟨token, hmem, u, v, ht, -⟩
  obtain ⟨body, hpiece, -⟩ := hfit.marker token hmem
  simp [hpiece] at ht

/-- Two markers in a text do not overlap. -/
theorem marker_behind {m m' u v v' : Text} (hm : IsMarker m) (hm' : IsMarker m') (hu : u ≠ [])
    (h : m ++ v = u ++ (m' ++ v')) : ∃ u', v = u' ++ (m' ++ v') := by
  obtain ⟨body, rfl, hbody⟩ := hm
  obtain ⟨body', rfl, -⟩ := hm'
  obtain ⟨c, u, rfl⟩ := List.exists_cons_of_ne_nil hu
  rw [List.cons_append, List.cons_append, List.cons.injEq] at h
  obtain ⟨u', rfl, hv⟩ | ⟨r, hbody', hv⟩ := List.append_eq_append_iff.mp h.2
  · exact ⟨u', hv⟩
  · cases r with
    | nil => exact ⟨[], by simpa using hv.symm⟩
    | cons d r =>
        rw [List.cons_append, List.cons_append, List.cons.injEq] at hv
        refine absurd ?_ hbody
        rw [hbody', ← hv.1]
        exact List.mem_append_right u List.mem_cons_self

theorem expands_append {m w : Text} (h : Expands tokens m t) : Expands tokens m (w ++ t) := by
  obtain ⟨token, hmem, u, v, rfl, hin⟩ := h
  exact ⟨token, hmem, w ++ u, v, by rw [List.append_assoc], hin⟩

theorem expands_token {m : Text} (hfit : Fits tokens m) {token : Token} (hmem : token ∈ tokens) :
    Expands tokens m (token.piece ++ t) ↔ Text.StartsIn m token.new t ∨ Expands tokens m t := by
  constructor
  · rintro ⟨other, hother, u, v, ht, hin⟩
    by_cases hu : u = []
    · subst hu
      -- Both tokens stand at the front, so they are the same.
      have heq : token = other := by
        rcases List.prefix_or_prefix_of_prefix (List.prefix_append token.piece t)
          (ht ▸ List.prefix_append other.piece v) with h | h
        · exact hfit.apart token hmem other hother h
        · exact (hfit.apart other hother token hmem h).symm
      subst heq
      rw [List.nil_append] at ht
      rw [List.append_cancel_left ht]
      exact Or.inl hin
    · obtain ⟨u', hv⟩ := marker_behind (hfit.marker token hmem) (hfit.marker other hother) hu ht
      exact Or.inr ⟨other, hother, u', v, hv, hin⟩
  · rintro (hin | hexp)
    · exact ⟨token, hmem, [], t, rfl, hin⟩
    · exact expands_append hexp

theorem expands_marker {m m' : Text} (hfit : Fits tokens m) (hm' : IsMarker m')
    (hnone : ∀ token ∈ tokens, ¬ token.piece <+: m' ++ t) :
    Expands tokens m (m' ++ t) ↔ Expands tokens m t := by
  refine ⟨?_, expands_append⟩
  rintro ⟨token, hmem, u, v, ht, hin⟩
  have hu : u ≠ [] := by
    rintro rfl
    exact hnone token hmem ⟨v, ht.symm⟩
  obtain ⟨u', hv⟩ := marker_behind hm' (hfit.marker token hmem) hu ht
  exact ⟨token, hmem, u', v, hv, hin⟩

theorem expands_char {m : Text} {c : Char} (hnone : ∀ token ∈ tokens, ¬ token.piece <+: c :: t) :
    Expands tokens m (c :: t) ↔ Expands tokens m t := by
  refine ⟨?_, expands_append (w := [c])⟩
  rintro ⟨token, hmem, u, v, ht, hin⟩
  cases u with
  | nil => exact absurd ⟨v, ht.symm⟩ (hnone token hmem)
  | cons d u => exact ⟨token, hmem, u, v, (List.cons.inj ht).2, hin⟩

/-! ### Replacing after the pass -/

/-- The text behind a token decides the same before and after the pass. -/
theorem startsIn_substitute {m x : Text} (hfit : Fits tokens m) (hm : IsMarker m) :
    Text.StartsIn m x (substitute tokens t) ↔ Text.StartsIn m x t := by
  obtain ⟨body, hmbody, hbody⟩ := hm
  have hiff : ∀ y, y ≠ [] → (m <+: y ++ substitute tokens t ↔ m <+: y ++ t) := by
    intro y hy
    have hreach : ∀ r, r ≠ [] → m = y ++ r → (r <+: substitute tokens t ↔ r <+: t) := by
      intro r hr hmr
      obtain ⟨d, y, rfl⟩ := List.exists_cons_of_ne_nil hy
      have hbr : body = y ++ r := by
        rw [hmbody, List.cons_append, List.cons.injEq] at hmr
        exact hmr.2
      refine prefix_substitute_iff hfit (fun c hc => ?_) (fun hc => ?_)
      · rw [hmr]
        exact List.mem_append_right _ hc
      · rw [hbr] at hbody
        exact hbody (List.mem_append_right _ hc)
    constructor
    · intro h
      rcases Text.prefix_append_cases h with h | ⟨r, hr, rfl, hrt⟩
      · exact h.trans (List.prefix_append _ _)
      · exact (List.prefix_append_right_inj y).mpr ((hreach r hr rfl).mp hrt)
    · intro h
      rcases Text.prefix_append_cases h with h | ⟨r, hr, rfl, hrt⟩
      · exact h.trans (List.prefix_append _ _)
      · exact (List.prefix_append_right_inj y).mpr ((hreach r hr rfl).mpr hrt)
  unfold Text.StartsIn
  refine exists_congr fun y => and_congr_right fun hy => and_congr_right fun _ => hiff y hy

/-- **One more replacement after the pass is one more token in it**, as long as no occurrence
begins in what was put in. -/
theorem replaceAll_substitute (last : Token) (hfit : Fits tokens last.piece)
    (hlast : IsMarker last.piece) (hclear : ¬ Expands tokens last.piece t) :
    Text.replaceAll last.piece last.new (substitute tokens t) =
      substitute (tokens ++ [last]) t := by
  induction t using marker_induction hfit hlast with
  | nil => rw [substitute_nil, substitute_nil, Text.replaceAll_nil]
  | token token hmem rest ih =>
      have hsub := substitute_token hfit hmem [] rest
      rw [List.append_nil] at hsub
      rw [expands_token hfit hmem, not_or, ← startsIn_substitute hfit hlast] at hclear
      rw [hsub, substitute_token hfit hmem, Text.replaceAll_append_of_not_startsIn hclear.1,
        ih hclear.2]
  | more rest hnone ih =>
      obtain ⟨hsub, hsub'⟩ := substitute_last hfit hlast hnone
      rw [expands_marker hfit hlast hnone] at hclear
      rw [hsub, hsub', Text.replaceAll_append_left hlast.ne_nil, ih hclear]
  | char c rest hnone hnot ih =>
      obtain ⟨hsub, hsub', hnot'⟩ := substitute_char hfit hlast hnone hnot
      rw [expands_char hnone] at hclear
      rw [hsub, hsub', Text.replaceAll_cons_of_not hnot', ih hclear]

/-- **If an occurrence does begin in what was put in, the results differ**: exchanged for
something longer than itself, it makes the one longer than the other. -/
theorem length_substitute_le (last : Token) (hfit : Fits tokens last.piece)
    (hlast : IsMarker last.piece) (hlong : last.piece.length < last.new.length) (t : Text) :
    (substitute (tokens ++ [last]) t).length ≤
        (Text.replaceAll last.piece last.new (substitute tokens t)).length ∧
      (Expands tokens last.piece t → (substitute (tokens ++ [last]) t).length <
        (Text.replaceAll last.piece last.new (substitute tokens t)).length) := by
  induction t using marker_induction hfit hlast with
  | nil =>
      rw [substitute_nil, substitute_nil, Text.replaceAll_nil]
      exact ⟨Nat.le_refl _, fun h => absurd h (not_expands_nil hfit)⟩
  | token token hmem rest ih =>
      have hsub := substitute_token hfit hmem [] rest
      rw [List.append_nil] at hsub
      obtain ⟨body, hpiece, hbody⟩ := id hlast
      have hstep := Text.length_replaceAll_append hbody (hpiece ▸ hlong) token.new
        (substitute tokens rest)
      rw [← hpiece, startsIn_substitute hfit hlast] at hstep
      rw [expands_token hfit hmem, hsub, substitute_token hfit hmem, List.length_append]
      refine ⟨by omega, ?_⟩
      rintro (hin | hexp)
      · have := hstep.2 hin
        omega
      · have := ih.2 hexp
        omega
  | more rest hnone ih =>
      obtain ⟨hsub, hsub'⟩ := substitute_last hfit hlast hnone
      rw [expands_marker hfit hlast hnone, hsub, hsub', Text.replaceAll_append_left hlast.ne_nil,
        List.length_append, List.length_append]
      refine ⟨by omega, fun hexp => ?_⟩
      have := ih.2 hexp
      omega
  | char c rest hnone hnot ih =>
      obtain ⟨hsub, hsub', hnot'⟩ := substitute_char hfit hlast hnone hnot
      rw [expands_char hnone, hsub, hsub', Text.replaceAll_cons_of_not hnot', List.length_cons,
        List.length_cons]
      refine ⟨by omega, fun hexp => ?_⟩
      have := ih.2 hexp
      omega

end AnnotationLog
