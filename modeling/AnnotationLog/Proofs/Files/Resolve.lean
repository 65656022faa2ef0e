/-
Where the paths of a run lead.

A run with default options asks for three paths: the current directory itself, the
name of the log in it, and the absolute path of the configuration file.  The first
two start in the current directory and end after one piece.  The third goes down
from the root along the names of the current directory; wherever it ends, it does
not find a file that the directory does not have.
-/
import AnnotationLog.Files.Access
import AnnotationLog.Proofs.Files.Tree
import AnnotationLog.Proofs.Text.Basic

namespace AnnotationLog

/-- A name of an entry that is short enough to be asked for. -/
structure IsFileName (t : Text) : Prop extends IsName t where
  short : (Utf8.encode t).length ≤ maxNameBytes

theorem IsName.not_stay {t : Text} (h : IsName t) : Path.isStay t = false := by
  simp [Path.isStay, h.ne_nil, h.ne_dot]

theorem IsName.pieces {t : Text} (h : IsName t) : Path.pieces t = [t] :=
  List.splitOn_eq_singleton h.no_slash

theorem IsName.not_absolute {t : Text} (h : IsName t) : Path.isAbsolute t = false := by
  rw [Path.isAbsolute, beq_eq_false_iff_ne]
  intro hc
  exact h.no_slash (List.mem_of_head? hc)

namespace FileSystem

variable {fs : FileSystem} {children : List (Text × Entry)}

/-! ### The current directory -/

theorem canonical_dot (hcwd : fs.root.find? fs.cwd = some (.dir children)) :
    fs.canonical ['.'] = .ok fs.cwd := by
  have hresolve : fs.resolve false ['.'] = .ok (.found fs.cwd) := by
    rw [resolve, if_neg (by decide), if_neg (by decide)]
    rw [show Path.pieces ['.'] = [['.']] by decide, resolveFrom, hcwd]
    simp only [show Path.isStay ['.'] = true by decide, if_true]
    rw [resolveFrom]
  rw [canonical, hresolve]

/-! ### A name in the current directory -/

theorem resolveFrom_name {name : Text} (hname : IsFileName name) {here : Location}
    (hhere : fs.root.find? here = some (.dir children)) (creating : Bool) (links : Nat) :
    (children.lookup name = none →
      fs.resolveFrom creating links here [name] = .ok (.absent here name)) ∧
    ∀ bytes, children.lookup name = some (.file bytes) →
      fs.resolveFrom creating links here [name] = .ok (.found (here ++ [name])) := by
  have hlong : ¬ maxNameBytes < (Utf8.encode name).length := Nat.not_lt.mpr hname.short
  constructor
  · intro habsent
    rw [resolveFrom, hhere]
    simp only [hname.toIsName.not_stay, Bool.false_eq_true, if_false, if_neg hname.ne_dots,
      List.isEmpty_nil, Bool.not_true, Bool.and_false, Bool.false_and, if_neg hlong, habsent,
      if_true]
  · intro bytes hfile
    rw [resolveFrom, hhere]
    simp only [hname.toIsName.not_stay, Bool.false_eq_true, if_false, if_neg hname.ne_dots,
      List.isEmpty_nil, Bool.not_true, Bool.and_false, Bool.false_and, if_neg hlong, hfile]
    rw [resolveFrom]

theorem resolveWhole_name {name : Text} (hname : IsFileName name) (creating : Bool) :
    fs.resolveWhole creating name = fs.resolveFrom creating maxLinks fs.cwd [name] := by
  have hlong : ¬ (!name.contains '\x00' && decide (maxPathBytes < (Utf8.encode name).length)) =
      true := by
    have hshort := hname.short
    rw [Bool.and_eq_true, decide_eq_true_eq]
    rintro ⟨-, hlt⟩
    simp only [maxNameBytes, maxPathBytes] at hshort hlt
    omega
  have hnul : ¬ name.contains '\x00' = true := fun hc =>
    hname.no_nul (List.contains_iff_mem.mp hc)
  rw [resolveWhole, if_neg (by simpa using hname.ne_nil), if_neg hlong, resolve, if_neg hnul,
    hname.toIsName.not_absolute, hname.toIsName.pieces]
  simp

theorem namedParent?_name {name : Text} (hname : IsName name) : Path.namedParent? name = none := by
  have hparent : Path.parent? name = some [] := by
    rw [Path.parent?, hname.not_absolute, hname.pieces]
    simp [Path.dropStays, hname.ne_nil]
  rw [Path.namedParent?, hparent]
  rfl

section Absent

variable {name : Text} (hname : IsFileName name)
  (hcwd : fs.root.find? fs.cwd = some (.dir children)) (habsent : children.lookup name = none)

include hname hcwd habsent

theorem exists?_of_absent : fs.exists? name = false := by
  have hresolve : fs.resolveWhole false name = .ok (.absent fs.cwd name) := by
    rw [resolveWhole_name hname]
    exact (resolveFrom_name hname hcwd false maxLinks).1 habsent
  rw [exists?, stat, hresolve]
  rfl

theorem writeText_of_absent (text : Text) :
    fs.writeText name text =
      .ok { fs with root := fs.root.put (fs.cwd ++ [name]) (.file (Utf8.encode text)) } := by
  have hresolve : fs.resolveWhole true name = .ok (.absent fs.cwd name) := by
    rw [resolveWhole_name hname]
    exact (resolveFrom_name hname hcwd true maxLinks).1 habsent
  rw [writeText, namedParent?_name hname.toIsName, writeBytes, writeLocation, hresolve]
  rfl

end Absent

theorem stat_of_file {name : Text} (hname : IsFileName name)
    (hcwd : fs.root.find? fs.cwd = some (.dir children)) {bytes : Bytes}
    (hfile : children.lookup name = some (.file bytes)) : fs.stat name = .ok (.file bytes) := by
  have hresolve : fs.resolveWhole false name = .ok (.found (fs.cwd ++ [name])) := by
    rw [resolveWhole_name hname]
    exact (resolveFrom_name hname hcwd false maxLinks).2 bytes hfile
  have hfind : fs.root.find? (fs.cwd ++ [name]) = some (.file bytes) := by
    rw [Entry.find?_append, hcwd, Option.bind_some, Entry.find?, hfile]
    exact Entry.find?_nil _
  rw [stat, hresolve]
  simp only [hfind]

/-! ### The configuration file -/

/-- Going down along proper names to a directory and asking it for something it does not have
finds nothing, if it gets there at all. -/
theorem resolveFrom_names {names : List Text} (hnames : ∀ n ∈ names, IsName n) {name : Text}
    (hname : IsFileName name) (habsent : children.lookup name = none) (links : Nat)
    {here : Location} (hdir : fs.root.find? (here ++ names) = some (.dir children)) :
    (∃ e, fs.resolveFrom false links here (names ++ [name]) = .error e) ∨
      fs.resolveFrom false links here (names ++ [name]) = .ok (.absent (here ++ names) name) := by
  induction names generalizing here with
  | nil =>
      rw [List.append_nil] at hdir ⊢
      exact Or.inr ((resolveFrom_name hname hdir false links).1 habsent)
  | cons n names ih =>
      have hn := hnames n List.mem_cons_self
      obtain ⟨siblings, child, hhere, hlookup, hchild⟩ : ∃ siblings child,
          fs.root.find? here = some (.dir siblings) ∧ siblings.lookup n = some child ∧
            child.find? names = some (.dir children) := by
        rw [Entry.find?_append] at hdir
        obtain ⟨e, he, hfind⟩ := Option.bind_eq_some_iff.mp hdir
        obtain ⟨siblings, child, rfl, hlookup, hchild⟩ := Entry.find?_cons_eq_some.mp hfind
        exact ⟨siblings, child, he, hlookup, hchild⟩
      -- A link has nothing below it, so the way goes through a directory.
      have hnotlink : ∀ target, child ≠ .link target := by
        rintro target rfl
        cases names <;> simp [Entry.find?] at hchild
      have hbelow : fs.root.find? ((here ++ [n]) ++ names) = some (.dir children) := by
        rwa [List.append_assoc]
      have hih := ih (fun m hm => hnames m (List.mem_cons_of_mem _ hm)) hbelow
      rw [List.append_assoc, List.singleton_append] at hih
      rw [List.cons_append, resolveFrom, hhere]
      simp only [hn.not_stay, Bool.false_eq_true, if_false, if_neg hn.ne_dots, Bool.false_and]
      split
      · exact Or.inl ⟨_, rfl⟩
      · rw [hlookup]
        cases child with
        | link target => exact absurd rfl (hnotlink target)
        | file bytes => exact hih
        | dir cs => exact hih

theorem root_dir {loc : Location} (hdir : fs.root.find? loc = some (.dir children)) :
    ∃ entries, fs.root = .dir entries := by
  cases loc with
  | nil =>
      rw [Entry.find?_nil, Option.some.injEq] at hdir
      exact ⟨children, hdir⟩
  | cons n loc =>
      obtain ⟨siblings, -, hroot, -⟩ := Entry.find?_cons_eq_some.mp hdir
      exact ⟨siblings, hroot⟩

theorem pieces_absolute {names : List Text} (hne : names ≠ [])
    (hslash : ∀ n ∈ names, '/' ∉ n) :
    Path.isAbsolute (Text.join ['/'] ([] :: names)) = true ∧
      Path.pieces (Text.join ['/'] ([] :: names)) = [] :: names := by
  constructor
  · obtain ⟨next, more, rfl⟩ := List.exists_cons_of_ne_nil hne
    rw [Text.join_cons_cons]
    rfl
  · refine List.splitOn_intercalate '/' ?_ (by simp)
    intro n hn
    rcases List.mem_cons.mp hn with rfl | hn
    · simp
    · exact hslash n hn

/-- A file that a directory does not have is not found by its absolute path either. -/
theorem not_isFile_absolute {loc : Location} (hnames : ∀ n ∈ loc, IsName n) {name : Text}
    (hname : IsFileName name) (hdir : fs.root.find? loc = some (.dir children))
    (habsent : children.lookup name = none) :
    fs.isFile (Text.join ['/'] ([] :: (loc ++ [name]))) = false := by
  have hslash : ∀ n ∈ loc ++ [name], '/' ∉ n := by
    intro n hn
    rcases List.mem_append.mp hn with hn | hn
    · exact (hnames n hn).no_slash
    · rw [List.mem_singleton.mp hn]
      exact hname.no_slash
  obtain ⟨habsolute, hpieces⟩ := pieces_absolute (by simp) hslash
  obtain ⟨entries, hroot⟩ := root_dir hdir
  -- The piece in front of the first slash stays at the root.
  have hstep : fs.resolveFrom false maxLinks [] ([] :: (loc ++ [name])) =
      fs.resolveFrom false maxLinks [] (loc ++ [name]) := by
    rw [resolveFrom, hroot, Entry.find?_nil]
    simp [Path.isStay]
  have hdown : fs.root.find? ([] ++ loc) = some (.dir children) := hdir
  have hnot : ∀ target, fs.resolveWhole false (Text.join ['/'] ([] :: (loc ++ [name]))) ≠
      .ok (.found target) := by
    intro target h
    unfold resolveWhole resolve at h
    rw [if_pos habsolute, hpieces, hstep] at h
    rcases resolveFrom_names hnames hname habsent maxLinks hdown with ⟨e, he⟩ | habs
    · rw [he] at h
      split_ifs at h
    · rw [habs] at h
      split_ifs at h
      simp at h
  rw [isFile, stat]
  cases hwhole : fs.resolveWhole false (Text.join ['/'] ([] :: (loc ++ [name]))) with
  | error e => rfl
  | ok target =>
      cases target with
      | found target => exact absurd hwhole (hnot target)
      | absent dir n => rfl

end FileSystem

end AnnotationLog
