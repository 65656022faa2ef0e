/-
What a registry holds.

A kind is fit to be registered if it has a name, a marker and a grammar; it is
registered if moreover its marker is free.  So the kinds of a registry are fit and
their markers differ, and any kinds of which this is true can be registered one after
the other.
-/
import AnnotationLog.Registry
import Mathlib.Data.List.Nodup

namespace AnnotationLog

/-- A kind that can be registered. -/
structure Kind.Fit (k : Kind) : Prop where
  named : Text.isBlankText k.name = false
  marked : Text.isBlankText k.marker = false
  readable : k.grammars ≠ []

/-- All kinds can be registered, and their markers can be told apart. -/
structure Registry.Fit (r : Registry) : Prop where
  kinds : ∀ k ∈ r.kinds, k.Fit
  markers : r.markers.Nodup

theorem Registry.fit_empty : Registry.Fit {} where
  kinds := by simp
  markers := List.nodup_nil

/-- **A kind is registered exactly if it is fit and its marker is free.** -/
theorem Registry.register_eq_ok_iff {r r' : Registry} {k : Kind} :
    r.register k = .ok r' ↔
      k.Fit ∧ k.marker ∉ r.markers ∧ r' = { kinds := r.kinds ++ [k] } := by
  unfold Registry.register
  constructor
  · intro h
    split at h
    · simp at h
    · rename_i hname
      split at h
      · simp at h
      · rename_i hmarker
        split at h
        · simp at h
        · rename_i hgrammars
          split at h
          · simp at h
          · rename_i hfree
            refine ⟨⟨by simpa using hname, by simpa using hmarker, ?_⟩, ?_, ?_⟩
            · simpa using hgrammars
            · simpa using hfree
            · exact (Except.ok.inj h).symm
  · rintro ⟨hfit, hfree, rfl⟩
    have hgrammars : k.grammars.isEmpty = false := by simpa using hfit.readable
    have hcontains : r.markers.contains k.marker = false := by simpa using hfree
    rw [hfit.named, hfit.marked, hgrammars, hcontains]
    rfl

theorem Registry.Fit.register {r r' : Registry} {k : Kind} (hr : r.Fit)
    (h : r.register k = .ok r') : r'.Fit := by
  obtain ⟨hk, hfree, rfl⟩ := Registry.register_eq_ok_iff.mp h
  constructor
  · intro k' hk'
    rcases List.mem_append.mp hk' with hold | hnew
    · exact hr.kinds k' hold
    · rw [List.mem_singleton.mp hnew]
      exact hk
  · unfold Registry.markers
    rw [List.map_append, List.nodup_append]
    refine ⟨hr.markers, List.nodup_singleton _, ?_⟩
    intro m hm m' hm'
    rw [List.map_cons, List.map_nil, List.mem_singleton] at hm'
    rw [hm']
    intro heq
    exact hfree (heq ▸ hm)

/-- **Kinds that make a fit registry are all registered**, behind those that are there. -/
theorem Registry.registerAll_of_fit {r : Registry} {ks : List Kind}
    (hfit : Registry.Fit { kinds := r.kinds ++ ks }) :
    r.registerAll ks = ({ kinds := r.kinds ++ ks }, .ok ()) := by
  induction ks generalizing r with
  | nil => rw [List.append_nil, registerAll]
  | cons k ks ih =>
      have hfree : k.marker ∉ r.markers := by
        have hnodup := hfit.markers
        unfold markers at hnodup
        rw [List.map_append, List.map_cons, List.nodup_append] at hnodup
        intro hmem
        exact hnodup.2.2 _ hmem _ List.mem_cons_self rfl
      have hregister := register_eq_ok_iff.mpr ⟨hfit.kinds k (by simp), hfree, rfl⟩
      rw [← List.singleton_append, ← List.append_assoc] at hfit ⊢
      rw [List.singleton_append, registerAll, hregister]
      exact ih hfit

theorem BuiltinKind.fit (b : BuiltinKind) : b.kind.Fit := by
  cases b <;> exact ⟨by decide, by decide, by simp [kind, Grammar.forAllDialects, Dialect.all]⟩

end AnnotationLog
