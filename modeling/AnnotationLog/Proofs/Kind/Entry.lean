/-
What entries show.

An entry shows the title, the ratings and the detail as running text, and nothing
else of what was captured: neither the indent nor the dialect, nor how the detail was
spread over lines.

An entry writes the path and what was captured between words of its own, and cleaning
a detail adds nothing but spaces.  So the zero character, which no such word holds,
is in what stands for a kind only if it was in a path or in an annotation.
-/
import AnnotationLog.Kind.Custom
import AnnotationLog.Proofs.Annotation.Detail
import AnnotationLog.Proofs.Annotation.Source
import AnnotationLog.Proofs.Kind.Replacement

namespace AnnotationLog

/-! ### Kinds -/

/-- A kind that a log can be given: a built-in one, or one that a configuration describes. -/
inductive Kind.IsAvailable : Kind → Prop
  | builtin (b : BuiltinKind) : IsAvailable b.kind
  | custom {c : CustomKind} {k : Kind} (h : c.build = .ok k) : IsAvailable k

theorem CustomKind.render_of_build {c : CustomKind} {k : Kind} (h : c.build = .ok k) :
    k.render = c.render := by
  unfold CustomKind.build at h
  split at h
  · simp at h
  · rw [← Except.ok.inj h]

/-- **An entry shows the title, the ratings and the running text of the detail**, so annotations
that agree in these are written in the same way. -/
theorem Kind.IsAvailable.render_congr {k : Kind} (hk : k.IsAvailable) {f f' : Fields}
    (htitle : f'.title = f.title) (hquality : f'.quality = f.quality)
    (himpact : f'.impact = f.impact) (hdetail : f'.detailText = f.detailText)
    (number : Nat) (path : Path) : k.render number path f' = k.render number path f := by
  have hrated : ∀ name, ratedEntry name number path f' = ratedEntry name number path f := by
    intro name
    unfold ratedEntry
    rw [htitle, hquality, himpact, hdetail]
  have hheading : ∀ name, headingEntry name number path f' = headingEntry name number path f := by
    intro name
    unfold headingEntry
    rw [htitle, hdetail]
  have hchecklist : checklistEntry f' = checklistEntry f := by
    unfold checklistEntry
    rw [htitle, hdetail]
  cases hk with
  | builtin b =>
      cases b with
      | assumption => exact hrated _
      | caveat => exact hheading _
      | debt => exact hheading _
      | todo => exact hchecklist
  | @custom c _ hbuild =>
      rw [CustomKind.render_of_build hbuild, CustomKind.render]
      cases c.style with
      | heading => exact hheading _
      | checklist => exact hchecklist

/-- What is neither in the name nor in the title is in a heading only as one of its signs or as a
digit. -/
theorem notMem_sectionHeading {c : Char} (hsign : c ∉ ['#', ':', ' '])
    (hdigit : Text.isDigit c = false) {name title : Text} (hname : c ∉ name) (htitle : c ∉ title)
    (number : Nat) : c ∉ sectionHeading name number title := by
  have hnumber : c ∉ Text.ofNat number := by
    intro hc
    rw [Text.isDigit_of_mem_ofNat hc] at hdigit
    simp at hdigit
  simp only [List.mem_cons, List.not_mem_nil, or_false, not_or] at hsign
  rw [sectionHeading_eq, headingFront_eq]
  simp [hname, hnumber, htitle, hsign]

/-! ### The zero character -/

/-- No zero character is in the path of a finding or in what it captured. -/
structure Finding.NulFree (f : Finding) : Prop where
  path : '\x00' ∉ f.path
  fields : f.fields.From (· ≠ '\x00')

theorem nul_notMem_joinLines {pieces : List Text} (h : ∀ piece ∈ pieces, '\x00' ∉ piece) :
    '\x00' ∉ Text.joinLines pieces := by
  intro hc
  rcases Text.mem_join hc with hsep | ⟨piece, hpiece, hc⟩
  · exact absurd hsep (by decide)
  · exact h piece hpiece hc

theorem nul_notMem_getD {value : Option Text} (h : ∀ q ∈ value, ∀ c ∈ q, c ≠ '\x00') :
    '\x00' ∉ value.getD [] := by
  cases value with
  | none => simp
  | some q => exact fun hc => h q rfl _ hc rfl

namespace Finding.NulFree

variable {f : Finding} (hf : f.NulFree)

include hf

theorem title : '\x00' ∉ f.fields.title :=
  fun hc => hf.fields.title _ hc rfl

theorem detailText : '\x00' ∉ f.fields.detailText := by
  intro hc
  rcases mem_of_mem_cleanDetail hc with h | ⟨line, hline, h⟩
  · exact absurd h (by decide)
  · rcases hf.fields.detail _ (Text.mem_of_mem_lines hline h) with h | h
    · exact h rfl
    · exact absurd h (by decide)

theorem sectionHeading {name : Text} (hname : '\x00' ∉ name) (number : Nat) :
    '\x00' ∉ AnnotationLog.sectionHeading name number f.fields.title :=
  notMem_sectionHeading (by decide) (by decide) hname hf.title number

theorem headingEntry {name : Text} (hname : '\x00' ∉ name) (number : Nat) :
    '\x00' ∉ AnnotationLog.headingEntry name number f.path f.fields := by
  have hheading := hf.sectionHeading hname number
  refine nul_notMem_joinLines ?_
  rw [List.forall_mem_append, List.forall_mem_append]
  refine ⟨⟨?_, ?_⟩, by simp⟩
  · simp [Text.backquoted, hheading, hf.path]
  · split <;> simp [hf.detailText]

theorem checklistEntry : '\x00' ∉ AnnotationLog.checklistEntry f.fields := by
  have htext : ∀ t : Text, '\x00' ∉ t →
      '\x00' ∉ "- [ ] ".toList ++ Text.collapseSpaces (Text.trim t) := by
    intro t ht hc
    rcases List.mem_append.mp hc with h | h
    · exact absurd h (by decide)
    · exact ht (Text.mem_of_mem_trim (Text.mem_of_mem_collapseSpaces h))
  refine htext _ ?_
  split <;> simp [hf.title, hf.detailText]

theorem render (b : BuiltinKind) (number : Nat) : '\x00' ∉ b.render number f.path f.fields := by
  have hname : '\x00' ∉ b.name := by cases b <;> decide
  cases b with
  | assumption =>
      have hheading := hf.sectionHeading hname number
      refine nul_notMem_joinLines ?_
      have hquality := nul_notMem_getD hf.fields.quality
      have himpact := nul_notMem_getD hf.fields.impact
      simp [Text.backquoted, hheading, hf.path, hquality, himpact, hf.detailText]
  | caveat => exact hf.headingEntry hname number
  | debt => exact hf.headingEntry hname number
  | todo => exact hf.checklistEntry

end Finding.NulFree

/-- What stands for findings without the zero character has none. -/
theorem nul_notMem_passage (b : BuiltinKind) {findings : List Finding}
    (h : ∀ f ∈ findings, f.NulFree) : '\x00' ∉ b.passage findings := by
  cases findings with
  | nil =>
      rw [BuiltinKind.passage_nil]
      cases b <;> decide +kernel
  | cons f fs =>
      rw [BuiltinKind.passage_cons]
      refine fun hc => nul_notMem_joinLines ?_ (Text.mem_of_mem_trim hc)
      intro entry hentry
      obtain ⟨⟨g, number⟩, hg, rfl⟩ := List.mem_map.mp hentry
      have hmem : g ∈ f :: fs :=
        List.mem_of_getElem? (List.mk_mem_zipIdx_iff_le_and_getElem?_sub.mp hg).2
      exact (h g hmem).render b number

end AnnotationLog
