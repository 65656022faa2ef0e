/-
What stands for a kind in a log.

The entries of all kinds but the things to do are sections.  Such an entry is a
heading, in which the number stands, and a rest that does not depend on the
number.  What replaces the marker of the kind is therefore its message or begins
with the heading of entry 1, or with a box if it is a thing to do; none of these
begins with a character of a marker, and the first two are longer than one.
-/
import AnnotationLog.Proofs.Date
import AnnotationLog.Template

namespace AnnotationLog

/-- The beginning of the heading of an entry, up to the colon behind the number. -/
def headingFront (name : Text) (number : Nat) : Text :=
  "### ".toList ++ (name ++ ' ' :: (Text.ofNat number ++ [':']))

theorem headingFront_eq (name : Text) (number : Nat) :
    headingFront name number = ("### ".toList ++ (name ++ ' ' :: Text.ofNat number)) ++ [':'] := by
  show "### ".toList ++ (name ++ ' ' :: (Text.ofNat number ++ [':'])) = _
  rw [List.append_assoc, List.append_assoc, List.cons_append]

theorem sectionHeading_eq (name : Text) (number : Nat) (title : Text) :
    sectionHeading name number title = headingFront name number ++ ' ' :: title := by
  show ((("### ".toList ++ name) ++ ' ' :: Text.ofNat number) ++ [':', ' ']) ++ title = _
  rw [headingFront_eq]
  simp only [List.append_assoc, List.cons_append, List.nil_append]

/-- An entry is a heading with its number and a rest that does not depend on the number. -/
theorem render_eq {b : BuiltinKind} (hb : b ≠ .todo) (path : Path) (f : Fields) :
    ∃ tail, ∀ number, b.render number path f = headingFront b.name number ++ ' ' :: tail := by
  have hjoin : ∀ (number : Nat) (more : List Text),
      Text.joinLines (sectionHeading b.name number f.title :: more) =
        headingFront b.name number ++ ' ' :: (f.title ++ more.flatMap ('\n' :: ·)) := by
    intro number more
    rw [Text.joinLines_cons, sectionHeading_eq, List.append_assoc, List.cons_append]
  cases b with
  | assumption => exact ⟨_, fun number => hjoin number _⟩
  | caveat => exact ⟨_, fun number => hjoin number _⟩
  | debt => exact ⟨_, fun number => hjoin number _⟩
  | todo => exact absurd rfl hb

/-- The digits, signs and capitals that what goes into a log begins with. -/
def isLeading (c : Char) : Bool :=
  Text.isDigit c || ['#', '-', 'C', 'G'].contains c

theorem leading_notMem_dateMarker {c : Char} (hc : isLeading c = true) : c ∉ dateMarker := by
  have hmarker : dateMarker.all (!isLeading ·) = true := by decide
  intro hmem
  simpa [hc] using List.all_eq_true.mp hmarker c hmem

namespace BuiltinKind

theorem leading_notMem_marker (b : BuiltinKind) {c : Char} (hc : isLeading c = true) :
    c ∉ b.marker := by
  have hmarker : b.marker.all (!isLeading ·) = true := by cases b <;> decide
  intro hmem
  simpa [hc] using List.all_eq_true.mp hmarker c hmem

/-- What stands in a log for some findings of a kind. -/
def passage (b : BuiltinKind) (findings : List Finding) : Text :=
  b.kind.replacement (b.kind.renderAll findings)

theorem passage_nil (b : BuiltinKind) : b.passage [] = Text.trim b.emptyMessage := rfl

theorem passage_cons (b : BuiltinKind) (f : Finding) (fs : List Finding) :
    b.passage (f :: fs) = Text.trim (Text.joinLines (b.kind.renderAll (f :: fs))) := rfl

/-- What stands at the front of every first entry, with no white space around it, stands at the
front. -/
theorem prefix_passage_of_render {b : BuiltinKind} {front : Text}
    (hrender : ∀ path fields, front <+: b.render 1 path fields) (hne : front ≠ [])
    (hfirst : ∀ c ∈ front.head?, Unicode.isWhiteSpace c = false)
    (hlast : ∀ c ∈ front.getLast?, Unicode.isWhiteSpace c = false) (f : Finding)
    (fs : List Finding) : front <+: b.passage (f :: fs) := by
  rw [passage_cons]
  refine Text.prefix_trim ?_ hne hfirst hlast
  rw [Kind.renderAll, List.zipIdx_cons, List.map_cons, Text.joinLines_cons]
  exact (hrender f.path f.fields).trans (List.prefix_append _ _)

/-- The heading of the first entry stands at the front. -/
theorem prefix_passage {b : BuiltinKind} (hb : b ≠ .todo) (f : Finding) (fs : List Finding) :
    headingFront b.name 1 <+: b.passage (f :: fs) := by
  have hne : headingFront b.name 1 ≠ [] := List.cons_ne_nil _ _
  refine prefix_passage_of_render ?_ hne ?_ ?_ f fs
  · intro path fields
    obtain ⟨tail, htail⟩ := render_eq hb path fields
    rw [htail]
    exact List.prefix_append _ _
  · intro c hc
    obtain rfl : '#' = c := Option.some.inj hc
    decide
  · intro c hc
    rw [headingFront_eq, List.getLast?_concat, Option.mem_def, Option.some.injEq] at hc
    rw [← hc]
    decide

/-- The box of the first thing to do stands at the front. -/
theorem box_prefix_passage (f : Finding) (fs : List Finding) :
    "- [ ]".toList <+: BuiltinKind.todo.passage (f :: fs) := by
  refine prefix_passage_of_render ?_ (List.cons_ne_nil _ _) ?_ ?_ f fs
  · intro path fields
    show "- [ ]".toList <+: "- [ ]".toList ++ ' ' :: Text.collapseSpaces _
    exact List.prefix_append _ _
  · intro c hc
    obtain rfl : '-' = c := Option.some.inj hc
    decide
  · intro c hc
    obtain rfl : ']' = c := Option.some.inj hc
    decide

theorem passage_first (b : BuiltinKind) (findings : List Finding) :
    ∃ c more, b.passage findings = c :: more ∧ isLeading c = true := by
  cases findings with
  | nil =>
      rw [passage_nil]
      have hhead : (Text.trim b.emptyMessage).head?.any isLeading = true := by
        cases b <;> decide +kernel
      obtain ⟨c, hc, hleading⟩ := (Option.any_eq_true _ _).mp hhead
      obtain ⟨more, hmore⟩ := List.head?_eq_some_iff.mp hc
      exact ⟨c, more, hmore, hleading⟩
  | cons f fs =>
      by_cases hb : b = .todo
      · subst hb
        obtain ⟨rest, hrest⟩ := box_prefix_passage f fs
        exact ⟨'-', _, hrest.symm, by decide⟩
      · obtain ⟨rest, hrest⟩ := prefix_passage hb f fs
        exact ⟨'#', _, hrest.symm, by decide⟩

/-- What stands for caveats is longer than their marker. -/
theorem length_marker_lt_passage (findings : List Finding) :
    BuiltinKind.caveat.marker.length < (BuiltinKind.caveat.passage findings).length := by
  cases findings with
  | nil =>
      rw [passage_nil]
      decide +kernel
  | cons f fs =>
      have hle := (prefix_passage (b := .caveat) (by decide) f fs).length_le
      have hlong : BuiltinKind.caveat.marker.length <
          (headingFront BuiltinKind.caveat.name 1).length := by
        decide +kernel
      omega

end BuiltinKind

end AnnotationLog
