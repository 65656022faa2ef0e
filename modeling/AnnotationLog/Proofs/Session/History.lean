/-
What a session holds after any history.

A session is pushed to, grown to a registry and finalised, in any order and with a
different registry each time.  Only a push can fail: a position may lie beyond the
last one that can have a slot, and then the program ends there.  Of everything else
only pushes are seen in the findings: one step adds what it pushes, and so a history
adds what its steps push, in their order.  Numbers are given out when the entries are
written, so they have no gaps whatever came before.
-/
import AnnotationLog.Proofs.Session

namespace AnnotationLog.Session

/-! ### One step -/

/-- What can be done with a session. -/
inductive Step where
  | push (i : Nat) (f : Finding)
  | sync (r : Registry)
  | finalize (r : Registry)

/-- A slot can be where the step pushes. -/
def Step.HasRoom : Step → Prop
  | .push i _ => i < maxSlots
  | _ => True

instance (step : Step) : Decidable step.HasRoom :=
  match step with
  | .push i _ => inferInstanceAs (Decidable (i < maxSlots))
  | .sync _ | .finalize _ => isTrue trivial

/-- The findings that a step pushes at a position. -/
def Step.pushedAt (i : Nat) : Step → List Finding
  | .push j f => if j = i then [f] else []
  | _ => []

/-- Whether a step is a push. -/
def Step.isPush : Step → Bool
  | .push _ _ => true
  | _ => false

/-- The session after a step, unless the step ends the program. -/
def perform (s : Session) : Step → Option Session
  | .push i f => s.push i f
  | .sync r => some (s.sync r)
  | .finalize r => some (s.finalize r)

/-- The session after one step and another. -/
def performAll (s : Session) (steps : List Step) : Option Session :=
  steps.foldlM perform s

theorem performAll_cons (s : Session) (step : Step) (steps : List Step) :
    s.performAll (step :: steps) = (s.perform step).bind fun t => t.performAll steps :=
  List.foldlM_cons

variable {step : Step} {steps : List Step}

/-- A step with room succeeds.  It adds what it pushes, and one finding if it is a push. -/
theorem perform_of_hasRoom (h : step.HasRoom) (s : Session) :
    ∃ t, s.perform step = some t ∧ (∀ i, t.matched i = s.matched i ++ step.pushedAt i) ∧
      t.total = s.total + if step.isPush then 1 else 0 := by
  cases step with
  | push j f =>
      exact ⟨s.add j f, if_pos h, fun i => matched_add s j i f, total_add s j f⟩
  | sync r =>
      refine ⟨s.sync r, rfl, fun i => ?_, total_grow s r.size⟩
      exact (matched_sync s r i).trans (List.append_nil _).symm
  | finalize r =>
      refine ⟨s.finalize r, rfl, fun i => ?_, total_finalize s r⟩
      exact (matched_finalize s r i).trans (List.append_nil _).symm

theorem perform_of_not_hasRoom (h : ¬ step.HasRoom) (s : Session) : s.perform step = none := by
  cases step with
  | push j f => exact if_neg h
  | sync r => exact absurd trivial h
  | finalize r => exact absurd trivial h

/-! ### A history of steps -/

theorem performAll_of_hasRoom (h : ∀ step ∈ steps, step.HasRoom) (s : Session) :
    ∃ t, s.performAll steps = some t ∧
      (∀ i, t.matched i = s.matched i ++ steps.flatMap (Step.pushedAt i)) ∧
      t.total = s.total + steps.countP Step.isPush := by
  induction steps generalizing s with
  | nil => exact ⟨s, rfl, fun i => (List.append_nil _).symm, rfl⟩
  | cons step steps ih =>
      obtain ⟨hstep, hrest⟩ := List.forall_mem_cons.mp h
      obtain ⟨t, ht, hmatched, htotal⟩ := perform_of_hasRoom hstep s
      obtain ⟨u, hu, hmatched', htotal'⟩ := ih hrest t
      refine ⟨u, ?_, fun i => ?_, ?_⟩
      · rw [performAll_cons, ht, Option.bind_some, hu]
      · rw [hmatched', hmatched, List.append_assoc, List.flatMap_cons]
      · rw [htotal', htotal, List.countP_cons]
        omega

/-- One step without room ends the program, whatever was to come behind it. -/
theorem performAll_of_not_hasRoom (h : ∃ step ∈ steps, ¬ step.HasRoom) (s : Session) :
    s.performAll steps = none := by
  induction steps generalizing s with
  | nil => simp at h
  | cons step steps ih =>
      rw [performAll_cons]
      by_cases hstep : step.HasRoom
      · obtain ⟨t, ht, -⟩ := perform_of_hasRoom hstep s
        have hrest : ∃ step ∈ steps, ¬ step.HasRoom := by simpa [hstep] using h
        rw [ht, Option.bind_some, ih hrest]
      · rw [perform_of_not_hasRoom hstep, Option.bind_none]

/-- **Entries are numbered without gaps, in the order of discovery.**  A history in which every
push finds room for its slot leaves a session.  Whatever was done, it holds at every position what
was pushed there, in the order of the pushes, and as many findings as there were pushes.
Finalising it writes, for every registered kind, one entry for each finding with the number of its
place, leaves the entries of all other positions, and changes nothing if it is done again.  A
history with a push that finds no room leaves no session. -/
theorem entries_numbered (steps : List Step) (r : Registry) :
    ((∃ step ∈ steps, ¬ step.HasRoom) → empty.performAll steps = none) ∧
    ((∀ step ∈ steps, step.HasRoom) → ∃ s, empty.performAll steps = some s ∧
      (∀ i, s.matched i = steps.flatMap (Step.pushedAt i)) ∧
      s.total = steps.countP Step.isPush ∧
      let final := s.finalize r
      (∀ i k, r.get? i = some k →
        (final.rendered i).length = (final.matched i).length ∧
          ∀ n f, (final.matched i)[n]? = some f →
            (final.rendered i)[n]? = some (k.render (n + 1) f.path f.fields)) ∧
      (∀ i, final.matched i = s.matched i) ∧
      (∀ i, r.size ≤ i → final.rendered i = s.rendered i) ∧
      final.finalize r = final) := by
  refine ⟨fun hnone => performAll_of_not_hasRoom hnone empty, fun hroom => ?_⟩
  obtain ⟨s, hs, hmatched, htotal⟩ := performAll_of_hasRoom hroom empty
  refine ⟨s, hs, fun i => ?_, ?_, ?_, fun i => matched_finalize s r i,
    fun i hi => rendered_finalize_of_le hi s, finalize_finalize s r⟩
  · exact (hmatched i).trans (List.nil_append _)
  · exact htotal.trans (Nat.zero_add _)
  · intro i k hk
    rw [rendered_finalize hk s, matched_finalize]
    refine ⟨length_renderAll k _, ?_⟩
    intro n f hf
    rw [renderAll_getElem?, hf]
    rfl

/-- Two caveats with a finalisation between them, and a finding where no kind is registered. -/
theorem entries_numbered_caveats :
    let finding (title : Text) : Finding :=
      { path := "p/a.py".toList
        fields := { indent := [], dialect := .hash, title, quality := none, impact := none,
                    detail := [] } }
    let r := Registry.forLogType .assumptionsCaveats
    let steps : List Step := [.push 1 (finding ['a']), .finalize r, .push 5 (finding ['b']),
      .sync (.forLogType .todoList), .push 1 (finding ['c'])]
    (∀ step ∈ steps, step.HasRoom) ∧ r.get? 1 = some BuiltinKind.caveat.kind ∧ r.size ≤ 5 ∧
      ∃ s, empty.performAll steps = some s ∧ s.total = 3 ∧
        (s.finalize r).rendered 1 = ["### Caveat 1: a\n\nLocation: `p/a.py`\n\n".toList,
          "### Caveat 2: c\n\nLocation: `p/a.py`\n\n".toList] ∧
        (s.finalize r).rendered 5 = [] := by
  intro finding r steps
  have hroom : ∀ step ∈ steps, step.HasRoom := by decide
  have hkind : r.get? 1 = some BuiltinKind.caveat.kind := rfl
  obtain ⟨s, hs, hmatched, htotal, hentries, hkept, hrest, -⟩ := (entries_numbered steps r).2 hroom
  have htwo : (s.finalize r).matched 1 = [finding ['a'], finding ['c']] := by
    rw [hkept, hmatched]
    rfl
  obtain ⟨hlength, hentry⟩ := hentries 1 _ hkind
  rw [htwo] at hlength hentry
  refine ⟨hroom, hkind, by decide, s, hs, htotal, ?_, ?_⟩
  · refine List.ext_getElem? fun n => ?_
    match n with
    | 0 => exact hentry 0 _ rfl
    | 1 => exact hentry 1 _ rfl
    | n + 2 => exact List.getElem?_eq_none (by rw [hlength]; exact Nat.le_add_left 2 n)
  · rw [hrest 5 (by decide)]
    obtain rfl : _ = s := Option.some.inj hs
    rfl

/-- No session is left by a push at the largest position that a word of 64 bits can name. -/
theorem entries_numbered_largest_position :
    let finding : Finding :=
      { path := "p/a.py".toList
        fields := { indent := [], dialect := .hash, title := ['a'], quality := none,
                    impact := none, detail := [] } }
    empty.performAll [.push 18446744073709551615 finding] = none := by
  intro finding
  exact performAll_of_not_hasRoom ⟨_, List.mem_cons_self, by decide⟩ empty

end AnnotationLog.Session
