/-
One more file in a directory.

The tree is as an operating system keeps it: every name is a proper name and no
directory has two children of one name.  Putting a new file into a directory then
leaves everything on the way there as it was, and the walk over the directory comes
upon the same files in the same order, with the new one somewhere among them.
-/
import AnnotationLog.Files.Entry
import Mathlib.Data.List.Nodup
import Mathlib.Data.Char

namespace AnnotationLog

/-! ### The order of names -/

namespace Text

theorem le_cons_cons (a b : Char) (s t : Text) :
    le (a :: s) (b :: t) = true ↔ a < b ∨ a = b ∧ le s t = true := by
  by_cases h : a = b
  · simp [le, h]
  · simp [le, h]

theorem le_total (s t : Text) : le s t = true ∨ le t s = true := by
  induction s generalizing t with
  | nil => exact Or.inl rfl
  | cons a s ih =>
      cases t with
      | nil => exact Or.inr rfl
      | cons b t =>
          rw [le_cons_cons, le_cons_cons]
          rcases lt_trichotomy a b with h | rfl | h
          · exact Or.inl (Or.inl h)
          · rcases ih t with h | h
            · exact Or.inl (Or.inr ⟨rfl, h⟩)
            · exact Or.inr (Or.inr ⟨rfl, h⟩)
          · exact Or.inr (Or.inl h)

theorem le_trans {s t u : Text} (hst : le s t = true) (htu : le t u = true) : le s u = true := by
  induction s generalizing t u with
  | nil => rfl
  | cons a s ih =>
      cases t with
      | nil => simp [le] at hst
      | cons b t =>
          cases u with
          | nil => simp [le] at htu
          | cons c u =>
              rw [le_cons_cons] at hst htu ⊢
              rcases hst with hab | ⟨rfl, hst⟩ <;> rcases htu with hbc | ⟨rfl, htu⟩
              · exact Or.inl (lt_trans hab hbc)
              · exact Or.inl hab
              · exact Or.inl hbc
              · exact Or.inr ⟨rfl, ih hst htu⟩

theorem le_antisymm {s t : Text} (hst : le s t = true) (hts : le t s = true) : s = t := by
  induction s generalizing t with
  | nil =>
      cases t with
      | nil => rfl
      | cons b t => simp [le] at hts
  | cons a s ih =>
      cases t with
      | nil => simp [le] at hst
      | cons b t =>
          rw [le_cons_cons] at hst hts
          rcases hst with hab | ⟨rfl, hst⟩ <;> rcases hts with hba | ⟨hba, hts⟩
          · exact absurd hba (lt_asymm hab)
          · exact absurd hab (by rw [hba]; exact lt_irrefl _)
          · exact absurd hba (lt_irrefl _)
          · rw [ih hst hts]

end Text

/-- A name that an operating system gives to an entry of a directory. -/
structure IsName (t : Text) : Prop where
  ne_nil : t ≠ []
  ne_dot : t ≠ ['.']
  ne_dots : t ≠ ['.', '.']
  no_slash : '/' ∉ t
  no_nul : '\x00' ∉ t

namespace Entry

/-- Every directory gives proper names to its children, and different ones. -/
inductive WellNamed : Entry → Prop where
  | file (bytes : Bytes) : WellNamed (.file bytes)
  | link (target : Text) : WellNamed (.link target)
  | dir {children : List (Text × Entry)} (names : ∀ c ∈ children, IsName c.1)
      (distinct : (children.map Prod.fst).Nodup) (below : ∀ c ∈ children, WellNamed c.2) :
      WellNamed (.dir children)

theorem WellNamed.distinct {children : List (Text × Entry)} (h : (Entry.dir children).WellNamed) :
    (children.map Prod.fst).Nodup := by
  cases h with
  | dir _ distinct _ => exact distinct

theorem mem_of_lookup {children : List (Text × Entry)} {name : Text} {child : Entry}
    (h : children.lookup name = some child) : (name, child) ∈ children := by
  obtain ⟨before, behind, rfl, -⟩ := List.lookup_eq_some_iff.mp h
  simp

/-! ### Looking up -/

theorem find?_nil (e : Entry) : e.find? [] = some e := by
  cases e <;> rfl

theorem find?_cons_eq_some {e found : Entry} {name : Text} {names : Location} :
    e.find? (name :: names) = some found ↔
      ∃ children child, e = .dir children ∧ children.lookup name = some child ∧
        child.find? names = some found := by
  cases e with
  | file bytes => simp [find?]
  | link target => simp [find?]
  | dir children =>
      rw [find?]
      cases h : children.lookup name with
      | none => simp [h]
      | some child => simp [h]

theorem find?_append (e : Entry) (loc behind : Location) :
    e.find? (loc ++ behind) = (e.find? loc).bind fun found => found.find? behind := by
  induction loc generalizing e with
  | nil => rw [find?_nil, List.nil_append, Option.bind_some]
  | cons name loc ih =>
      cases e with
      | file bytes => simp [find?]
      | link target => simp [find?]
      | dir children =>
          rw [List.cons_append, find?, find?]
          cases children.lookup name with
          | none => rfl
          | some child => exact ih child

/-- The names on the way to an entry are proper names, and the entry is well named itself. -/
theorem WellNamed.find? {e found : Entry} (he : e.WellNamed) {loc : Location}
    (h : e.find? loc = some found) : (∀ name ∈ loc, IsName name) ∧ found.WellNamed := by
  induction loc generalizing e with
  | nil =>
      rw [find?_nil, Option.some.injEq] at h
      exact ⟨by simp, h ▸ he⟩
  | cons name loc ih =>
      obtain ⟨children, child, rfl, hlookup, hchild⟩ := find?_cons_eq_some.mp h
      cases he with
      | dir names distinct below =>
          have hmem := mem_of_lookup hlookup
          obtain ⟨hnames, hfound⟩ := ih (below _ hmem) hchild
          refine ⟨?_, hfound⟩
          intro n hn
          rcases List.mem_cons.mp hn with rfl | hn
          · exact names _ hmem
          · exact hnames n hn

/-! ### Putting an entry into a directory -/

theorem lookup_setChild_self (name : Text) (new : Entry) (children : List (Text × Entry)) :
    (setChild name new children).lookup name = some new := by
  induction children with
  | nil => simp [setChild]
  | cons c children ih =>
      obtain ⟨n, old⟩ := c
      rw [setChild]
      by_cases hn : n = name
      · rw [if_pos hn, hn, List.lookup_cons_self]
      · have hne : (name == n) = false := beq_eq_false_iff_ne.mpr (Ne.symm hn)
        rw [if_neg hn, List.lookup_cons, hne]
        exact ih

theorem lookup_setChild_other {name other : Text} (h : other ≠ name) (new : Entry)
    (children : List (Text × Entry)) :
    (setChild name new children).lookup other = children.lookup other := by
  induction children with
  | nil => simp [setChild, h]
  | cons c children ih =>
      obtain ⟨n, old⟩ := c
      rw [setChild]
      by_cases hn : n = name
      · have hne : (other == n) = false := beq_eq_false_iff_ne.mpr (hn ▸ h)
        rw [if_pos hn, List.lookup_cons, List.lookup_cons, hne]
      · rw [if_neg hn, List.lookup_cons, List.lookup_cons, ih]

theorem setChild_of_absent {name : Text} {children : List (Text × Entry)}
    (h : children.lookup name = none) (new : Entry) :
    setChild name new children = children ++ [(name, new)] := by
  induction children with
  | nil => rfl
  | cons c children ih =>
      obtain ⟨n, old⟩ := c
      rw [List.lookup_eq_none_iff] at h
      have hn : n ≠ name := by
        have hne := h (n, old) List.mem_cons_self
        exact fun heq => (bne_iff_ne.mp hne) heq.symm
      have hrest : children.lookup name = none :=
        List.lookup_eq_none_iff.mpr fun p hp => h p (List.mem_cons_of_mem _ hp)
      rw [setChild, if_neg hn, ih hrest, List.cons_append]

theorem put_cons {children : List (Text × Entry)} {name : Text} {names : Location} {child : Entry}
    (hne : names ≠ []) (h : children.lookup name = some child) (new : Entry) :
    (Entry.dir children).put (name :: names) new =
      .dir (setChild name (child.put names new) children) := by
  obtain ⟨next, more, rfl⟩ := List.exists_cons_of_ne_nil hne
  rw [put, h]
  simp

/-- The directory that an entry was put into, and nothing on the way there, has changed. -/
theorem find?_put {e : Entry} {loc : Location} {children : List (Text × Entry)}
    (h : e.find? loc = some (.dir children)) (name : Text) (new : Entry) :
    (e.put (loc ++ [name]) new).find? loc = some (.dir (setChild name new children)) := by
  induction loc generalizing e with
  | nil =>
      rw [find?_nil, Option.some.injEq] at h
      subst h
      rw [List.nil_append, put, find?_nil]
  | cons n loc ih =>
      obtain ⟨siblings, child, rfl, hlookup, hchild⟩ := find?_cons_eq_some.mp h
      rw [List.cons_append, put_cons (by simp) hlookup, find?, lookup_setChild_self]
      exact ih hchild

/-! ### The walk -/

theorem filesIn_append (cs ds : List (Text × Entry)) :
    filesIn (cs ++ ds) = filesIn cs ++ filesIn ds := by
  induction cs with
  | nil => rfl
  | cons c cs ih => rw [List.cons_append, filesIn, filesIn, ih, List.cons_append]

theorem filesIn_names (children : List (Text × Entry)) :
    (filesIn children).map Prod.fst = children.map Prod.fst := by
  induction children with
  | nil => rfl
  | cons c children ih => rw [filesIn, List.map_cons, List.map_cons, ih]

theorem mem_filesIn {children : List (Text × Entry)} {name : Text}
    {below : List (Location × Bytes)} (h : (name, below) ∈ filesIn children) :
    ∃ child, (name, child) ∈ children ∧ below = child.files := by
  induction children with
  | nil => simp [filesIn] at h
  | cons c children ih =>
      rw [filesIn] at h
      rcases List.mem_cons.mp h with heq | h
      · obtain ⟨rfl, rfl⟩ := Prod.mk.inj heq
        exact ⟨c.2, List.mem_cons_self, rfl⟩
      · obtain ⟨child, hmem, hbelow⟩ := ih h
        exact ⟨child, List.mem_cons_of_mem _ hmem, hbelow⟩

/-- The walk gives proper names only. -/
theorem WellNamed.mem_files {e : Entry} (he : e.WellNamed) {f : Location × Bytes}
    (hf : f ∈ e.files) : ∀ name ∈ f.1, IsName name := by
  induction he generalizing f with
  | file bytes =>
      rw [files, List.mem_singleton] at hf
      simp [hf]
  | link target => simp [files] at hf
  | dir names distinct below ih =>
      rw [files, List.mem_flatMap] at hf
      obtain ⟨⟨n, fs⟩, hn, hf⟩ := hf
      obtain ⟨child, hchild, rfl⟩ := mem_filesIn (List.mem_mergeSort.mp hn)
      obtain ⟨⟨loc, bytes⟩, hg, rfl⟩ := List.mem_map.mp hf
      intro name hname
      rcases List.mem_cons.mp hname with rfl | hname
      · exact names _ hchild
      · exact ih _ hchild hg name hname

section Sorted

variable {α : Type}

theorem le_name_trans (a b c : Text × α) (hab : Text.le a.1 b.1 = true)
    (hbc : Text.le b.1 c.1 = true) : Text.le a.1 c.1 = true :=
  Text.le_trans hab hbc

theorem le_name_total (a b : Text × α) : (Text.le a.1 b.1 || Text.le b.1 a.1) = true := by
  rw [Bool.or_eq_true]
  exact Text.le_total a.1 b.1

/-- Sorting by different names does not depend on the order before. -/
theorem mergeSort_names {xs ys : List (Text × α)} (hperm : xs.Perm ys)
    (hkeys : (ys.map Prod.fst).Nodup) :
    xs.mergeSort (fun a b => Text.le a.1 b.1) = ys.mergeSort fun a b => Text.le a.1 b.1 := by
  refine List.Perm.eq_of_pairwise ?_ (List.pairwise_mergeSort le_name_trans le_name_total _)
    (List.pairwise_mergeSort le_name_trans le_name_total _)
    ((List.mergeSort_perm _ _).trans (hperm.trans (List.mergeSort_perm _ _).symm))
  intro a b ha hb hab hba
  have hmem := hperm.mem_iff.mp (List.mem_mergeSort.mp ha)
  exact List.inj_on_of_nodup_map hkeys hmem (List.mem_mergeSort.mp hb) (Text.le_antisymm hab hba)

end Sorted

/-- **A new file is met somewhere among the others, which keep their order.** -/
theorem files_setChild {children : List (Text × Entry)} (hnames : (children.map Prod.fst).Nodup)
    {name : Text} (habsent : children.lookup name = none) (bytes : Bytes) :
    ∃ before behind, (Entry.dir children).files = before ++ behind ∧
      (Entry.dir (setChild name (.file bytes) children)).files =
        before ++ ([name], bytes) :: behind := by
  have hkeys : (((name, [([], bytes)]) :: filesIn children).map Prod.fst).Nodup := by
    rw [List.map_cons, filesIn_names, List.nodup_cons]
    refine ⟨?_, hnames⟩
    intro hmem
    obtain ⟨c, hc, hcname⟩ := List.mem_map.mp hmem
    exact (bne_iff_ne.mp (List.lookup_eq_none_iff.mp habsent c hc)) hcname.symm
  have hlast : filesIn (setChild name (.file bytes) children) =
      filesIn children ++ [(name, [([], bytes)])] := by
    rw [setChild_of_absent habsent, filesIn_append]
    rfl
  -- The new child stands last in the listing, but may as well stand first.
  have hsorted := mergeSort_names (List.perm_append_singleton _ _) hkeys
  rw [← hlast] at hsorted
  obtain ⟨front, back, hcons, hrest, -⟩ :=
    List.mergeSort_cons le_name_trans le_name_total (name, [([], bytes)]) (filesIn children)
  refine ⟨front.flatMap fun (name, below) => below.map fun (loc, bytes) => (name :: loc, bytes),
    back.flatMap fun (name, below) => below.map fun (loc, bytes) => (name :: loc, bytes), ?_, ?_⟩
  · rw [files, hrest, List.flatMap_append]
  · rw [files, hsorted, hcons, List.flatMap_append, List.flatMap_cons]
    rfl

end Entry

end AnnotationLog
