/-
The walk over a tree.

The walk is written as a recursion that sorts the children of every directory and
puts what is below them one after another.  What it amounts to can be said without
it: it gives every file that can be looked up, each once, in the order of locations,
where locations are compared name by name and names byte by byte.  These two things
fix a list, so the walk does not depend on the order in which directories list their
children.
-/
import AnnotationLog.Proofs.Files.View
import AnnotationLog.Proofs.Text.ByteOrder

namespace AnnotationLog

/-! ### The order of locations -/

/-- A location comes before another one: name by name, and names by their bytes. -/
def Location.Precedes (a b : Location) : Prop :=
  a.map Utf8.encode < b.map Utf8.encode

namespace Location

theorem precedes_irrefl (a : Location) : ¬ Precedes a a :=
  List.lt_irrefl _

theorem precedes_asymm {a b : Location} (h : Precedes a b) : ¬ Precedes b a :=
  List.lt_asymm h

theorem precedes_append {a b : Location} (front : Location) (h : Precedes a b) :
    Precedes (front ++ a) (front ++ b) := by
  rw [Precedes, List.map_append, List.map_append]
  exact List.append_left_lt h

theorem precedes_cons {m n : Text} (hle : Text.le m n = true) (hne : m ≠ n) (a b : Location) :
    Precedes (m :: a) (n :: b) :=
  List.cons_lt_cons_iff.mpr (Or.inl (Utf8.encode_lt_encode hle hne))

end Location

/-! ### What the walk comes upon -/

namespace Entry

theorem lookup_of_mem {children : List (Text × Entry)} (hnames : (children.map Prod.fst).Nodup)
    {name : Text} {child : Entry} (h : (name, child) ∈ children) :
    children.lookup name = some child := by
  obtain ⟨before, behind, rfl⟩ := List.append_of_mem h
  refine List.lookup_eq_some_iff.mpr ⟨before, behind, rfl, ?_⟩
  intro c hc
  rw [List.map_append, List.map_cons] at hnames
  have hne := (List.nodup_append.mp hnames).2.2 c.1 (List.mem_map_of_mem hc) name
    List.mem_cons_self
  exact bne_iff_ne.mpr hne.symm

/-- The order of a listing does not show in the view. -/
theorem view_perm {children children' : List (Text × Entry)}
    (hnames : (children.map Prod.fst).Nodup) (hperm : children.Perm children') :
    (dir children').view = (dir children).view := by
  have hlookup : ∀ name, children'.lookup name = children.lookup name := by
    intro name
    refine Option.ext fun child => ⟨fun h => ?_, fun h => ?_⟩
    · exact lookup_of_mem hnames (hperm.mem_iff.mpr (mem_of_lookup h))
    · have hnames' := (hperm.map Prod.fst).nodup_iff.mp hnames
      exact lookup_of_mem hnames' (hperm.mem_iff.mp (mem_of_lookup h))
  funext loc
  cases loc with
  | nil => rfl
  | cons name names => rw [view, view, find?, find?, hlookup]

theorem mem_filesIn_of_mem {children : List (Text × Entry)} {c : Text × Entry}
    (h : c ∈ children) : (c.1, c.2.files) ∈ filesIn children := by
  induction children with
  | nil => simp at h
  | cons d children ih =>
      rw [filesIn]
      rcases List.mem_cons.mp h with rfl | h
      · exact List.mem_cons_self
      · exact List.mem_cons_of_mem _ (ih h)

/-- The walk comes upon exactly the files that can be looked up. -/
theorem mem_files_iff {e : Entry} (he : e.WellNamed) {loc : Location} {bytes : Bytes} :
    (loc, bytes) ∈ e.files ↔ e.find? loc = some (.file bytes) := by
  induction he generalizing loc with
  | file b =>
      rw [files, List.mem_singleton, Prod.mk.injEq]
      cases loc with
      | nil => simp [find?_nil, eq_comm]
      | cons name names => simp [find?]
  | link target =>
      cases loc with
      | nil => simp [files, find?_nil]
      | cons name names => simp [files, find?]
  | @dir children names distinct below ih =>
      rw [files, List.mem_flatMap]
      constructor
      · rintro ⟨⟨name, found⟩, hname, hloc⟩
        obtain ⟨child, hchild, rfl⟩ := mem_filesIn (List.mem_mergeSort.mp hname)
        obtain ⟨⟨l, b⟩, hfile, heq⟩ := List.mem_map.mp hloc
        obtain ⟨rfl, rfl⟩ := Prod.mk.inj heq
        exact find?_cons_eq_some.mpr
          ⟨children, child, rfl, lookup_of_mem distinct hchild, (ih _ hchild).mp hfile⟩
      · intro hfind
        cases loc with
        | nil => simp [find?_nil] at hfind
        | cons name names =>
            obtain ⟨children', child, heq, hlookup, hchild⟩ := find?_cons_eq_some.mp hfind
            obtain rfl : children = children' := by simpa using heq
            have hmem := mem_of_lookup hlookup
            refine ⟨(name, child.files), List.mem_mergeSort.mpr (mem_filesIn_of_mem hmem), ?_⟩
            exact List.mem_map.mpr ⟨(names, bytes), (ih _ hmem).mpr hchild, rfl⟩

/-- The walk goes through the files in the order of their locations. -/
theorem pairwise_files {e : Entry} (he : e.WellNamed) :
    e.files.Pairwise fun a b => Location.Precedes a.1 b.1 := by
  induction he with
  | file bytes => rw [files]; exact List.pairwise_singleton _ _
  | link target => rw [files]; exact List.Pairwise.nil
  | @dir children names distinct below ih =>
      rw [files, List.pairwise_flatMap]
      constructor
      · rintro ⟨name, found⟩ hname
        obtain ⟨child, hchild, rfl⟩ := mem_filesIn (List.mem_mergeSort.mp hname)
        rw [List.pairwise_map]
        exact (ih _ hchild).imp fun hab => Location.precedes_append [name] hab
      · -- The children are sorted and have different names.
        have hsorted := List.pairwise_mergeSort le_name_trans le_name_total (filesIn children)
        have hdistinct : (((filesIn children).mergeSort fun a b => Text.le a.1 b.1).map
            Prod.fst).Nodup := by
          rw [((List.mergeSort_perm _ _).map Prod.fst).nodup_iff, filesIn_names]
          exact distinct
        refine (hsorted.and (List.pairwise_map.mp hdistinct)).imp ?_
        rintro ⟨m, found⟩ ⟨n, found'⟩ ⟨hle, hne⟩ x hx y hy
        obtain ⟨a, -, rfl⟩ := List.mem_map.mp hx
        obtain ⟨b, -, rfl⟩ := List.mem_map.mp hy
        exact Location.precedes_cons hle hne a.1 b.1

end Entry

/-! ### The files with an ending at or below a location -/

/-- All files of a tree at or below a location whose names have an ending, in order. -/
structure IsWalk (tree : Entry) (root : Location) (ending : Text)
    (files : List (Location × Bytes)) : Prop where
  ordered : files.Pairwise fun a b => Location.Precedes a.1 b.1
  mem_iff : ∀ loc bytes, (loc, bytes) ∈ files ↔
    root <+: loc ∧ tree.find? loc = some (.file bytes) ∧ ending <:+ loc.getLast?.getD []

namespace IsWalk

variable {tree tree' : Entry} {root : Location} {ending : Text}
  {files files' : List (Location × Bytes)}

theorem nodup (h : IsWalk tree root ending files) : files.Nodup := by
  refine h.ordered.imp ?_
  rintro a b hab rfl
  exact Location.precedes_irrefl a.1 hab

/-- There is one such list. -/
theorem unique (h : IsWalk tree root ending files) (h' : IsWalk tree root ending files') :
    files = files' := by
  have hperm : files.Perm files' := by
    rw [List.perm_ext_iff_of_nodup h.nodup h'.nodup]
    rintro ⟨loc, bytes⟩
    rw [h.mem_iff, h'.mem_iff]
  refine List.Perm.eq_of_pairwise ?_ h.ordered h'.ordered hperm
  intro a b _ _ hab hba
  exact absurd hba (Location.precedes_asymm hab)

/-- It depends on what stands where, and on nothing else. -/
theorem of_view (hview : tree'.view = tree.view) (h : IsWalk tree root ending files) :
    IsWalk tree' root ending files := by
  refine ⟨h.ordered, fun loc bytes => ?_⟩
  rw [h.mem_iff, ← Entry.view_eq_file_iff, ← Entry.view_eq_file_iff, hview]

end IsWalk

theorem Text.endsWith_iff {ending t : Text} : Text.endsWith ending t = true ↔ ending <:+ t := by
  rw [Text.endsWith, Text.startsWith_iff, List.reverse_prefix]

/-- The files at or below an entry at a location whose names have an ending, in the order of the
walk. -/
def walk (root : Location) (entry : Entry) (ending : Text) : List (Location × Bytes) :=
  (entry.files.map fun f => (root ++ f.1, f.2)).filter fun f =>
    Text.endsWith ending (f.1.getLast?.getD [])

/-- Every name has the empty ending. -/
theorem walk_nil (root : Location) (entry : Entry) :
    walk root entry [] = entry.files.map fun f => (root ++ f.1, f.2) :=
  List.filter_eq_self.mpr fun _ _ => rfl

/-- **The walk below a location gives these files.** -/
theorem isWalk_walk {tree entry : Entry} {root : Location} (hnamed : tree.WellNamed)
    (hroot : tree.find? root = some entry) (ending : Text) :
    IsWalk tree root ending (walk root entry ending) := by
  have hentry := (hnamed.find? hroot).2
  constructor
  case ordered =>
    refine List.Pairwise.filter _ ?_
    rw [List.pairwise_map]
    exact (Entry.pairwise_files hentry).imp fun hab => Location.precedes_append root hab
  case mem_iff =>
    intro loc bytes
    rw [walk, List.mem_filter, Text.endsWith_iff, ← and_assoc]
    refine and_congr_left fun _ => ?_
    rw [List.mem_map]
    constructor
    · rintro ⟨⟨l, b⟩, hfile, heq⟩
      obtain ⟨rfl, rfl⟩ := Prod.mk.inj heq
      refine ⟨List.prefix_append root l, ?_⟩
      rw [Entry.find?_append, hroot, Option.bind_some]
      exact (Entry.mem_files_iff hentry).mp hfile
    · rintro ⟨⟨l, rfl⟩, hfind⟩
      rw [Entry.find?_append, hroot, Option.bind_some] at hfind
      exact ⟨(l, bytes), (Entry.mem_files_iff hentry).mpr hfind, rfl⟩

end AnnotationLog
