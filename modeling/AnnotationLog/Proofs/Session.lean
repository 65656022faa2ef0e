/-
What a session holds after each of its steps.

A session is read through two views only, the findings and the entries of the kind
at a position.  Growing changes neither, adding a finding adds it at one position,
scanning some texts adds at every position what the kind there finds in them, and
finalising makes the entries those of the findings wherever a kind is registered.
-/
import AnnotationLog.Session

namespace AnnotationLog

/-- What a kind finds in some texts, each with the path of its file. -/
def Kind.findingsIn (k : Kind) (sources : List (Path × Text)) : List Finding :=
  sources.flatMap fun source => (k.find source.2).map fun fields => { path := source.1, fields }

theorem Kind.findingsIn_append (k : Kind) (sources sources' : List (Path × Text)) :
    k.findingsIn (sources ++ sources') = k.findingsIn sources ++ k.findingsIn sources' :=
  List.flatMap_append

namespace Session

variable {s : Session} {r : Registry} {i j : Nat} {k : Kind}

/-! ### Growing -/

/-- A new slot shows nothing, so a view of the slots does not see that a session has grown. -/
theorem view_grow {α : Type} {view : Slot → List α} (hnew : view {} = []) (s : Session)
    (n i : Nat) : (((s.grow n).slots[i]?).map view).getD [] = ((s.slots[i]?).map view).getD [] := by
  simp only [grow]
  rcases Nat.lt_or_ge i s.slots.length with hlt | hge
  · rw [List.getElem?_append_left hlt]
  · rw [List.getElem?_append_right hge, List.getElem?_eq_none hge, List.getElem?_replicate]
    split
    · exact hnew
    · rfl

theorem grow_of_le {n : Nat} (h : n ≤ s.slots.length) : s.grow n = s := by
  rw [grow, Nat.sub_eq_zero_of_le h, List.replicate_zero, List.append_nil]

theorem length_slots_grow (s : Session) (n : Nat) : n ≤ (s.grow n).slots.length := by
  simp only [grow, List.length_append, List.length_replicate]
  omega

/-! ### Findings -/

theorem matched_grow (s : Session) (n i : Nat) : (s.grow n).matched i = s.matched i :=
  view_grow rfl s n i

theorem matched_sync (s : Session) (r : Registry) (i : Nat) :
    (s.sync r).matched i = s.matched i :=
  matched_grow s r.size i

theorem matched_add (s : Session) (i j : Nat) (f : Finding) :
    (s.add i f).matched j = s.matched j ++ if i = j then [f] else [] := by
  rw [← matched_grow s (i + 1) j]
  simp only [matched, add, List.getElem?_modify]
  by_cases hij : i = j
  · subst hij
    -- The slot is there, because the session has grown to hold it.
    rw [List.getElem?_eq_getElem (length_slots_grow s (i + 1))]
    simp
  · simp [hij]

theorem matched_addAll (s : Session) (i j : Nat) (fs : List Finding) :
    (s.addAll i fs).matched j = s.matched j ++ if i = j then fs else [] := by
  induction fs generalizing s with
  | nil => simp [addAll]
  | cons f fs ih =>
      rw [addAll, List.foldl_cons, ← addAll, ih, matched_add]
      by_cases hij : i = j <;> simp [hij]

/-- The fold over the kinds from position `n` on. -/
theorem matched_foldl_kinds (found : Kind → List Finding) (ks : List Kind) (n : Nat)
    (s : Session) (j : Nat) :
    ((ks.zipIdx n).foldl (fun s (k, i) => s.addAll i (found k)) s).matched j =
      s.matched j ++ if n ≤ j then ((ks[j - n]?).map found).getD [] else [] := by
  induction ks generalizing n s with
  | nil => simp
  | cons k ks ih =>
      rw [List.zipIdx_cons, List.foldl_cons, ih, matched_addAll]
      rcases Nat.lt_trichotomy n j with hlt | rfl | hgt
      · rw [if_neg (by omega), if_pos (by omega), if_pos (by omega),
          show j - n = j - (n + 1) + 1 by omega, List.getElem?_cons_succ, List.append_nil]
      · rw [if_pos rfl, if_neg (by omega), if_pos (Nat.le_refl n), Nat.sub_self]
        simp
      · rw [if_neg (by omega), if_neg (by omega), if_neg (by omega), List.append_nil]

/-- Scanning a text adds at every position what the kind there finds, if there is one. -/
theorem matched_scan_at (s : Session) (r : Registry) (path : Path) (text : Text) (j : Nat) :
    (s.scan r path text).matched j = s.matched j ++ ((r.kinds[j]?).map fun k =>
      (k.find text).map fun fields => ({ path, fields } : Finding)).getD [] := by
  have h := matched_foldl_kinds
    (fun k => (k.find text).map fun fields => ({ path, fields } : Finding))
    r.kinds 0 s j
  rw [if_pos (Nat.zero_le j), Nat.sub_zero] at h
  exact h

/-- Scans some texts one after another. -/
def scanAll (s : Session) (r : Registry) (sources : List (Path × Text)) : Session :=
  sources.foldl (fun s source => s.scan r source.1 source.2) s

theorem scanAll_append (s : Session) (r : Registry) (sources sources' : List (Path × Text)) :
    s.scanAll r (sources ++ sources') = (s.scanAll r sources).scanAll r sources' :=
  List.foldl_append

theorem matched_scanAll_at (s : Session) (r : Registry) (sources : List (Path × Text)) (j : Nat) :
    (s.scanAll r sources).matched j =
      s.matched j ++ ((r.kinds[j]?).map fun k => k.findingsIn sources).getD [] := by
  induction sources generalizing s with
  | nil => cases r.kinds[j]? <;> simp [scanAll, Kind.findingsIn]
  | cons source sources ih =>
      rw [scanAll, List.foldl_cons, ← scanAll, ih, matched_scan_at, List.append_assoc]
      cases r.kinds[j]? <;> rfl

theorem matched_scanAll (hk : r.kinds[j]? = some k) (s : Session)
    (sources : List (Path × Text)) :
    (s.scanAll r sources).matched j = s.matched j ++ k.findingsIn sources := by
  rw [matched_scanAll_at, hk]
  rfl

/-! ### The number of findings -/

theorem total_grow (s : Session) (n : Nat) : (s.grow n).total = s.total := by
  have hempty : ∀ m, (List.replicate m ({} : Slot)).flatMap Slot.matched = [] := by
    intro m
    simp
  rw [total, grow, List.flatMap_append, hempty, List.append_nil, total]

/-- One slot more by one finding makes one finding more. -/
theorem length_flatMap_modify {slots : List Slot} (hi : i < slots.length) (f : Finding) :
    ((slots.modify i fun slot => { slot with matched := slot.matched ++ [f] }).flatMap
      Slot.matched).length = (slots.flatMap Slot.matched).length + 1 := by
  induction slots generalizing i with
  | nil => simp at hi
  | cons slot slots ih =>
      cases i with
      | zero =>
          simp only [List.modify_zero_cons, List.flatMap_cons, List.length_append,
            List.length_singleton]
          omega
      | succ i =>
          have := ih (Nat.lt_of_succ_lt_succ hi)
          rw [List.modify_succ_cons, List.flatMap_cons, List.flatMap_cons, List.length_append,
            List.length_append]
          omega

theorem total_add (s : Session) (i : Nat) (f : Finding) : (s.add i f).total = s.total + 1 := by
  rw [← total_grow s (i + 1)]
  exact length_flatMap_modify (length_slots_grow s (i + 1)) f

theorem total_addAll (s : Session) (i : Nat) (fs : List Finding) :
    (s.addAll i fs).total = s.total + fs.length := by
  induction fs generalizing s with
  | nil => rfl
  | cons f fs ih =>
      rw [addAll, List.foldl_cons, ← addAll, ih, total_add, List.length_cons]
      omega

/-- Scanning a text adds as many findings as all kinds together find in it. -/
theorem total_scan (s : Session) (r : Registry) (path : Path) (text : Text) :
    (s.scan r path text).total = s.total + (r.kinds.flatMap fun k => k.find text).length := by
  have hkinds : ∀ (ks : List Kind) (n : Nat) (s : Session), ((ks.zipIdx n).foldl
      (fun s (k, i) => s.addAll i ((k.find text).map fun fields => { path, fields })) s).total =
        s.total + (ks.flatMap fun k => k.find text).length := by
    intro ks
    induction ks with
    | nil => intro n s; rfl
    | cons k ks ih =>
        intro n s
        rw [List.zipIdx_cons, List.foldl_cons, ih, total_addAll, List.length_map,
          List.flatMap_cons, List.length_append]
        omega
  exact hkinds r.kinds 0 s

/-! ### Entries -/

/-- The entries of some findings are numbered from 1, in the order of the findings. -/
theorem renderAll_getElem? (k : Kind) (findings : List Finding) (n : Nat) :
    (k.renderAll findings)[n]? =
      (findings[n]?).map fun f => k.render (n + 1) f.path f.fields := by
  rw [Kind.renderAll, List.getElem?_map, List.getElem?_zipIdx, Option.map_map, Nat.add_comm 1 n]
  rfl

theorem length_renderAll (k : Kind) (findings : List Finding) :
    (k.renderAll findings).length = findings.length := by
  rw [Kind.renderAll, List.length_map, List.length_zipIdx]

theorem rendered_grow (s : Session) (n i : Nat) : (s.grow n).rendered i = s.rendered i :=
  view_grow rfl s n i

theorem renderSlots_getElem? {ks : List Kind} (hk : ks[i]? = some k) (slots : List Slot) :
    (renderSlots ks slots)[i]? =
      (slots[i]?).map fun slot => { slot with rendered := k.renderAll slot.matched } := by
  induction ks generalizing slots i with
  | nil => simp at hk
  | cons k' ks ih =>
      cases slots with
      | nil => rfl
      | cons slot slots =>
          cases i with
          | zero =>
              obtain rfl : k' = k := by simpa using hk
              rfl
          | succ i => exact ih hk slots

/-- A slot that no kind belongs to is left as it is. -/
theorem renderSlots_getElem?_of_le {ks : List Kind} (h : ks.length ≤ i) (slots : List Slot) :
    (renderSlots ks slots)[i]? = slots[i]? := by
  induction ks generalizing slots i with
  | nil => rfl
  | cons k ks ih =>
      cases slots with
      | nil => rfl
      | cons slot slots =>
          cases i with
          | zero => simp at h
          | succ i => exact ih (Nat.le_of_succ_le_succ h) slots

theorem renderSlots_matched (ks : List Kind) (slots : List Slot) :
    (renderSlots ks slots).map Slot.matched = slots.map Slot.matched := by
  induction ks generalizing slots with
  | nil => rfl
  | cons k ks ih =>
      cases slots with
      | nil => rfl
      | cons slot slots => rw [renderSlots, List.map_cons, ih, List.map_cons]

theorem renderSlots_renderSlots (ks : List Kind) (slots : List Slot) :
    renderSlots ks (renderSlots ks slots) = renderSlots ks slots := by
  induction ks generalizing slots with
  | nil => rfl
  | cons k ks ih =>
      cases slots with
      | nil => rfl
      | cons slot slots => rw [renderSlots, renderSlots, ih]

/-! ### Finalising -/

/-- Finalising makes the entries of a kind those of its findings. -/
theorem rendered_finalize (hk : r.kinds[i]? = some k) (s : Session) :
    (s.finalize r).rendered i = k.renderAll (s.matched i) := by
  have hlt : i < (s.sync r).slots.length :=
    Nat.lt_of_lt_of_le (List.getElem?_eq_some_iff.mp hk).1 (length_slots_grow s r.size)
  rw [rendered, finalize, renderSlots_getElem? hk, ← matched_sync s r i, matched,
    List.getElem?_eq_getElem hlt]
  rfl

/-- Finalising leaves the entries where no kind is registered. -/
theorem rendered_finalize_of_le (h : r.size ≤ i) (s : Session) :
    (s.finalize r).rendered i = s.rendered i := by
  rw [← rendered_grow s r.size i, rendered, rendered, finalize, renderSlots_getElem?_of_le h]
  rfl

/-- Finalising finds nothing new. -/
theorem matched_finalize (s : Session) (r : Registry) (i : Nat) :
    (s.finalize r).matched i = s.matched i := by
  rw [← matched_sync s r i, matched, matched, ← List.getElem?_map, ← List.getElem?_map, finalize,
    renderSlots_matched]

theorem total_finalize (s : Session) (r : Registry) : (s.finalize r).total = s.total := by
  have hmatched : (s.finalize r).slots.map Slot.matched = (s.sync r).slots.map Slot.matched :=
    renderSlots_matched r.kinds (s.sync r).slots
  rw [← total_grow s r.size, total, List.flatMap_def, hmatched, ← List.flatMap_def]
  rfl

/-- Finalising again changes nothing: there are enough slots, and the findings are the same. -/
theorem finalize_finalize (s : Session) (r : Registry) :
    (s.finalize r).finalize r = s.finalize r := by
  have hlength : (s.finalize r).slots.length = (s.sync r).slots.length := by
    have hmatched := congrArg List.length (renderSlots_matched r.kinds (s.sync r).slots)
    rwa [List.length_map, List.length_map] at hmatched
  have hsync : (s.finalize r).sync r = s.finalize r :=
    grow_of_le (hlength ▸ length_slots_grow s r.size)
  rw [finalize, hsync, finalize, renderSlots_renderSlots]

end Session

end AnnotationLog
