/-
A tree read through what stands at its locations.

Following a path asks only what stands at a location: a file, a link, a directory
or nothing.  `view` answers that and leaves the listing of a directory out, so trees
with the same view lead every path to the same place, in whatever order their
directories list their children.

Putting a file into a directory changes the view at one location.  No path goes
through that location on its way, for neither a file nor nothing leads on; so a path
that led there before, or found the name absent, leads there afterwards, and what was
written is read back.
-/
import AnnotationLog.Proofs.Files.Resolve

namespace AnnotationLog

/-- What stands at a location. -/
inductive Node where
  | file (bytes : Bytes)
  | link (target : Text)
  | dir
  deriving DecidableEq, Repr

namespace Entry

/-- An entry without what it lists. -/
def node : Entry → Node
  | .file bytes => .file bytes
  | .link target => .link target
  | .dir _ => .dir

/-- What stands at a location of a tree. -/
def view (e : Entry) (loc : Location) : Option Node :=
  (e.find? loc).map node

variable {e : Entry} {loc : Location} {children : List (Text × Entry)}

theorem view_eq_dir_iff :
    e.view loc = some .dir ↔ ∃ children, e.find? loc = some (.dir children) := by
  rw [view, Option.map_eq_some_iff]
  constructor
  · rintro ⟨found, hfound, hnode⟩
    cases found with
    | file bytes => simp [node] at hnode
    | link target => simp [node] at hnode
    | dir children => exact ⟨children, hfound⟩
  · rintro ⟨children, hfound⟩
    exact ⟨.dir children, hfound, rfl⟩

theorem view_eq_file_iff {bytes : Bytes} :
    e.view loc = some (.file bytes) ↔ e.find? loc = some (.file bytes) := by
  rw [view, Option.map_eq_some_iff]
  constructor
  · rintro ⟨found, hfound, hnode⟩
    cases found with
    | file b =>
        obtain rfl : b = bytes := by simpa [node] using hnode
        exact hfound
    | link target => simp [node] at hnode
    | dir children => simp [node] at hnode
  · intro hfound
    exact ⟨.file bytes, hfound, rfl⟩

theorem view_child (h : e.find? loc = some (.dir children)) (name : Text) :
    e.view (loc ++ [name]) = (children.lookup name).map node := by
  rw [view, find?_append, h, Option.bind_some, find?]
  cases children.lookup name with
  | none => rfl
  | some child => exact congrArg _ (find?_nil child)

/-- Only a directory has anything below it. -/
theorem view_dir_of_below {more : Location} (hmore : more ≠ []) {n : Node}
    (h : e.view (loc ++ more) = some n) : e.view loc = some .dir := by
  obtain ⟨name, more, rfl⟩ := List.exists_cons_of_ne_nil hmore
  rw [view, find?_append, Option.map_eq_some_iff] at h
  obtain ⟨found, hfound, -⟩ := h
  obtain ⟨here, hhere, hbelow⟩ := Option.bind_eq_some_iff.mp hfound
  obtain ⟨children, child, rfl, -, -⟩ := find?_cons_eq_some.mp hbelow
  exact view_eq_dir_iff.mpr ⟨children, hhere⟩

theorem view_below_of_not_dir {more : Location} (hmore : more ≠ []) (h : e.view loc ≠ some .dir) :
    e.view (loc ++ more) = none := by
  rw [Option.eq_none_iff_forall_ne_some]
  intro n hn
  exact h (view_dir_of_below hmore hn)

theorem view_dropLast (h : e.view loc = some .dir) : e.view loc.dropLast = some .dir := by
  rcases List.eq_nil_or_concat loc with rfl | ⟨front, name, rfl⟩
  · exact h
  · rw [List.concat_eq_append] at h ⊢
    rw [List.dropLast_concat]
    exact view_dir_of_below (by simp) h

/-! ### Putting an entry into a directory -/

variable {dir : Location} {name : Text}

theorem find?_put_self (h : e.find? dir = some (.dir children)) (new : Entry) :
    (e.put (dir ++ [name]) new).find? (dir ++ [name]) = some new := by
  rw [find?_append, find?_put h, Option.bind_some, find?, lookup_setChild_self]
  exact find?_nil new

/-- Everything that is not at or below the new entry stands where it stood. -/
theorem view_put_other (h : e.find? dir = some (.dir children)) (new : Entry) {other : Location}
    (hother : ¬ dir ++ [name] <+: other) :
    (e.put (dir ++ [name]) new).view other = e.view other := by
  induction dir generalizing e other with
  | nil =>
      rw [find?_nil, Option.some.injEq] at h
      subst h
      cases other with
      | nil => rfl
      | cons n other =>
          have hne : n ≠ name := fun heq => hother (by simp [heq])
          rw [List.nil_append, put, view, view, find?, find?, lookup_setChild_other hne]
  | cons m dir ih =>
      obtain ⟨siblings, child, rfl, hlookup, hchild⟩ := find?_cons_eq_some.mp h
      rw [List.cons_append, put_cons (by simp) hlookup]
      cases other with
      | nil => rfl
      | cons n other =>
          rw [view, view, find?, find?]
          by_cases hnm : n = m
          · subst hnm
            rw [List.cons_append, List.cons_prefix_cons, not_and] at hother
            rw [lookup_setChild_self, hlookup]
            exact ih hchild (hother rfl)
          · rw [lookup_setChild_other hnm]

end Entry

/-- The location that a path leads to, whether or not anything is there. -/
def Target.location : Target → Location
  | .found loc => loc
  | .absent dir name => dir ++ [name]

namespace FileSystem

variable {fs : FileSystem}

/-! ### Following a path -/

/-- One step along a path, said with the view. -/
theorem resolveFrom_cons (fs : FileSystem) (creating : Bool) (links : Nat) (here : Location)
    (piece : Text) (rest : List Text) :
    fs.resolveFrom creating links here (piece :: rest) =
      if fs.root.view here = some .dir then
        if Path.isStay piece then fs.resolveFrom creating links here rest
        else if piece = ['.', '.'] then fs.resolveFrom creating links here.dropLast rest
        else if creating && !rest.isEmpty && rest.all List.isEmpty then .error .isDirectory
        else if maxNameBytes < (Utf8.encode piece).length then .error .nameTooLong
        else
          match fs.root.view (here ++ [piece]) with
          | some (.link target) =>
            match links with
            | 0 => .error .tooManyLinks
            | links + 1 =>
              fs.resolveFrom creating links (if Path.isAbsolute target then [] else here)
                (Path.pieces target ++ rest)
          | some _ => fs.resolveFrom creating links (here ++ [piece]) rest
          | none => if rest.isEmpty then .ok (.absent here piece) else .error .notFound
      else .error .notDirectory := by
  rw [resolveFrom]
  by_cases hdir : fs.root.view here = some .dir
  · obtain ⟨children, hhere⟩ := Entry.view_eq_dir_iff.mp hdir
    rw [if_pos hdir, hhere, Entry.view_child hhere]
    dsimp only
    cases children.lookup piece with
    | none => rfl
    | some child => cases child <;> rfl
  · rw [if_neg hdir]
    split
    · rename_i children hhere
      exact absurd (Entry.view_eq_dir_iff.mpr ⟨children, hhere⟩) hdir
    · rfl

/-- A name leads on to what the directory has under it. -/
theorem resolveFrom_down {links : Nat} {here : Location} {piece : Text}
    (hdir : fs.root.view here = some .dir) (hstay : ¬ Path.isStay piece = true)
    (hdots : piece ≠ ['.', '.']) (hshort : ¬ maxNameBytes < (Utf8.encode piece).length)
    (rest : List Text) :
    fs.resolveFrom false links here (piece :: rest) =
      match fs.root.view (here ++ [piece]) with
      | some (.link target) =>
        match links with
        | 0 => .error .tooManyLinks
        | links + 1 =>
          fs.resolveFrom false links (if Path.isAbsolute target then [] else here)
            (Path.pieces target ++ rest)
      | some _ => fs.resolveFrom false links (here ++ [piece]) rest
      | none => if rest.isEmpty then .ok (.absent here piece) else .error .notFound := by
  rw [resolveFrom_cons, if_pos hdir, if_neg hstay, if_neg hdots, if_neg (by simp),
    if_neg hshort]

/-- Where a path leads depends on the view alone. -/
theorem resolveFrom_congr {fs' : FileSystem} (hview : fs'.root.view = fs.root.view)
    (creating : Bool) (links : Nat) (here : Location) (pieces : List Text) :
    fs'.resolveFrom creating links here pieces = fs.resolveFrom creating links here pieces := by
  -- Along a path the pieces get fewer, and at a link the links that may still be followed.
  induction links generalizing here pieces with
  | zero =>
      induction pieces generalizing here with
      | nil => rw [resolveFrom, resolveFrom]
      | cons piece rest ih =>
          rw [resolveFrom_cons, resolveFrom_cons fs, hview]
          simp only [ih]
  | succ links ihlinks =>
      induction pieces generalizing here with
      | nil => rw [resolveFrom, resolveFrom]
      | cons piece rest ih =>
          rw [resolveFrom_cons, resolveFrom_cons fs, hview]
          simp only [ih, ihlinks]

theorem canonical_congr {fs' : FileSystem} (hview : fs'.root.view = fs.root.view)
    (hcwd : fs'.cwd = fs.cwd) (p : Path) : fs'.canonical p = fs.canonical p := by
  simp only [canonical, resolve, hcwd, resolveFrom_congr hview]

/-! ### Where a path can lead -/

/-- A directory, or a name in a directory that is a file or absent. -/
def Reaches (fs : FileSystem) : Target → Prop
  | .found loc =>
    fs.root.view loc = some .dir ∨ ∃ dir name bytes, loc = dir ++ [name] ∧
      fs.root.view dir = some .dir ∧ fs.root.view loc = some (.file bytes)
  | .absent dir name => fs.root.view dir = some .dir ∧ fs.root.view (dir ++ [name]) = none

theorem reaches_of_resolveFrom {creating : Bool} {links : Nat} {here : Location}
    {pieces : List Text} (hstart : pieces ≠ [] ∨ fs.Reaches (.found here)) {target : Target}
    (h : fs.resolveFrom creating links here pieces = .ok target) : fs.Reaches target := by
  fun_induction fs.resolveFrom creating links here pieces with
  | case1 links here =>
      obtain rfl : Target.found here = target := by simpa using h
      exact hstart.resolve_left (by simp)
  | case2 links here piece rest children hhere hstay ih =>
      exact ih (Or.inr (Or.inl (Entry.view_eq_dir_iff.mpr ⟨children, hhere⟩))) h
  | case3 links here rest children hhere hstay ih =>
      have hdir := Entry.view_eq_dir_iff.mpr ⟨children, hhere⟩
      exact ih (Or.inr (Or.inl (Entry.view_dropLast hdir))) h
  | case4 => simp at h
  | case5 => simp at h
  | case6 => simp at h
  | case7 here piece rest children hhere _ _ _ _ goal hlink links start ih =>
      exact ih (Or.inl (by simp [Path.pieces])) h
  | case8 links here piece rest children hhere _ _ _ _ child hlink hchild ih =>
      refine ih (Or.inr ?_) h
      have hview := Entry.view_child hhere piece
      rw [hchild, Option.map_some] at hview
      cases child with
      | link target => exact absurd rfl (hlink target)
      | dir children => exact Or.inl hview
      | file bytes =>
          have hdir := Entry.view_eq_dir_iff.mpr ⟨children, hhere⟩
          exact Or.inr ⟨here, piece, bytes, rfl, hdir, hview⟩
  | case9 links here piece rest children hhere _ _ _ _ habsent hrest =>
      obtain rfl : Target.absent here piece = target := by simpa using h
      refine ⟨Entry.view_eq_dir_iff.mpr ⟨children, hhere⟩, ?_⟩
      rw [Entry.view_child hhere, habsent, Option.map_none]
  | case10 => simp at h
  | case11 => simp at h

/-! ### Reading what was written -/

section Written

variable {dir : Location} {name : Text} {children : List (Text × Entry)}

/-- The files with one file more, or with a new content for one. -/
def withFile (fs : FileSystem) (loc : Location) (bytes : Bytes) : FileSystem :=
  { fs with root := fs.root.put loc (.file bytes) }

variable (hdir : fs.root.find? dir = some (.dir children))
  (hnode : fs.root.view (dir ++ [name]) = none ∨
    ∃ old, fs.root.view (dir ++ [name]) = some (.file old))

include hdir

theorem view_withFile_self (bytes : Bytes) :
    (fs.withFile (dir ++ [name]) bytes).root.view (dir ++ [name]) = some (.file bytes) :=
  Entry.view_eq_file_iff.mpr (Entry.find?_put_self hdir (.file bytes))

include hnode

/-- What stands elsewhere is the same as before. -/
theorem view_withFile_of_ne (bytes : Bytes) {other : Location} (hne : other ≠ dir ++ [name]) :
    (fs.withFile (dir ++ [name]) bytes).root.view other = fs.root.view other := by
  by_cases hbelow : dir ++ [name] <+: other
  · -- Nothing is below the file, and nothing was before.
    obtain ⟨more, rfl⟩ := hbelow
    have hmore : more ≠ [] := fun hnil => hne (by simp [hnil])
    rw [Entry.view_below_of_not_dir hmore (by rw [view_withFile_self hdir]; simp)]
    refine (Entry.view_below_of_not_dir hmore ?_).symm
    rcases hnode with hnone | ⟨old, hold⟩
    · simp [hnone]
    · simp [hold]
  · exact Entry.view_put_other hdir (.file bytes) hbelow

theorem view_withFile_other (bytes : Bytes) {other : Location} (hne : other ≠ dir ++ [name])
    {n : Node} (h : fs.root.view other = some n) :
    (fs.withFile (dir ++ [name]) bytes).root.view other = some n := by
  rw [view_withFile_of_ne hdir hnode bytes hne, h]

/-- A path that led to the file, or to the name before there was one, leads to the file. -/
theorem resolveFrom_withFile (bytes : Bytes) {creating : Bool} {links : Nat} {here : Location}
    {pieces : List Text} {target : Target}
    (h : fs.resolveFrom creating links here pieces = .ok target)
    (htarget : target.location = dir ++ [name]) :
    (fs.withFile (dir ++ [name]) bytes).resolveFrom false links here pieces =
      .ok (.found (dir ++ [name])) := by
  have hkept : ∀ loc, fs.root.view loc = some .dir →
      (fs.withFile (dir ++ [name]) bytes).root.view loc = some .dir := by
    intro loc hloc
    refine view_withFile_other hdir hnode bytes ?_ hloc
    rintro rfl
    rcases hnode with hnone | ⟨old, hold⟩
    · simp [hnone] at hloc
    · simp [hold] at hloc
  fun_induction fs.resolveFrom creating links here pieces with
  | case1 links here =>
      obtain rfl : Target.found here = target := by simpa using h
      rw [resolveFrom, ← htarget]
      rfl
  | case2 links here piece rest children hhere hstay ih =>
      have hd := hkept here (Entry.view_eq_dir_iff.mpr ⟨children, hhere⟩)
      rw [resolveFrom_cons, if_pos hd, if_pos hstay]
      exact ih h
  | case3 links here rest children hhere hstay ih =>
      have hd := hkept here (Entry.view_eq_dir_iff.mpr ⟨children, hhere⟩)
      rw [resolveFrom_cons, if_pos hd, if_neg hstay, if_pos rfl]
      exact ih h
  | case4 => simp at h
  | case5 => simp at h
  | case6 => simp at h
  | case7 here piece rest children hhere hstay hdots _ hshort goal hlink links start ih =>
      have hd := hkept here (Entry.view_eq_dir_iff.mpr ⟨children, hhere⟩)
      have hview := Entry.view_child hhere piece
      rw [hlink, Option.map_some] at hview
      have hne : here ++ [piece] ≠ dir ++ [name] := by
        intro heq
        rw [heq] at hview
        rcases hnode with hnone | ⟨old, hold⟩
        · simp [hnone] at hview
        · simp [hold, Entry.node] at hview
      rw [resolveFrom_down hd hstay hdots hshort, view_withFile_other hdir hnode bytes hne hview]
      exact ih h
  | case8 links here piece rest children hhere hstay hdots _ hshort child hlink hchild ih =>
      have hd := hkept here (Entry.view_eq_dir_iff.mpr ⟨children, hhere⟩)
      have hview := Entry.view_child hhere piece
      rw [hchild, Option.map_some] at hview
      rw [resolveFrom_down hd hstay hdots hshort]
      by_cases heq : here ++ [piece] = dir ++ [name]
      · rw [heq] at ih h ⊢
        rw [view_withFile_self hdir]
        exact ih h
      · rw [view_withFile_other hdir hnode bytes heq hview]
        cases child with
        | link target => exact absurd rfl (hlink target)
        | dir children => exact ih h
        | file bytes => exact ih h
  | case9 links here piece rest children hhere hstay hdots _ hshort habsent hrest =>
      have hd := hkept here (Entry.view_eq_dir_iff.mpr ⟨children, hhere⟩)
      obtain rfl : Target.absent here piece = target := by simpa using h
      have heq : here ++ [piece] = dir ++ [name] := htarget
      obtain rfl : rest = [] := by simpa using hrest
      rw [resolveFrom_down hd hstay hdots hshort, heq, view_withFile_self hdir]
      dsimp only
      rw [resolveFrom]
  | case10 => simp at h
  | case11 => simp at h

end Written

/-- A path that can be followed in one file system can be followed in any. -/
theorem resolveWhole_ok {creating : Bool} {p : Path} {target : Target}
    (h : fs.resolveWhole creating p = .ok target) (fs' : FileSystem) (creating' : Bool) :
    fs'.resolveWhole creating' p =
      fs'.resolveFrom creating' maxLinks (if Path.isAbsolute p then [] else fs'.cwd)
        (Path.pieces p) := by
  unfold resolveWhole resolve at h ⊢
  split at h
  · simp at h
  · split at h
    · simp at h
    · split at h
      · simp at h
      · rename_i hempty hlong hnul
        rw [if_neg hempty, if_neg hlong, if_neg hnul]

/-- Writing puts the file at a name of a directory where there was a file or nothing. -/
theorem writeBytes_ok {fs' : FileSystem} {p : Path} {bytes : Bytes}
    (h : fs.writeBytes p bytes = .ok fs') :
    ∃ target dir name children, fs.resolveWhole true p = .ok target ∧
      target.location = dir ++ [name] ∧ fs.root.find? dir = some (.dir children) ∧
      (fs.root.view (dir ++ [name]) = none ∨
        ∃ old, fs.root.view (dir ++ [name]) = some (.file old)) ∧
      fs' = fs.withFile (dir ++ [name]) bytes := by
  unfold writeBytes writeLocation at h
  cases hresolve : fs.resolveWhole true p with
  | error e => simp [hresolve] at h
  | ok target =>
      have hreach : fs.Reaches target := by
        have hfrom := resolveWhole_ok hresolve fs true
        rw [hresolve] at hfrom
        exact reaches_of_resolveFrom (Or.inl (List.splitOn_ne_nil _ _)) hfrom.symm
      rw [hresolve] at h
      cases target with
      | found loc =>
          rcases hreach with hdir | ⟨dir, name, old, rfl, hdir, hold⟩
          · obtain ⟨children, hfind⟩ := Entry.view_eq_dir_iff.mp hdir
            simp [isDirAt, hfind] at h
          · obtain ⟨children, hfind⟩ := Entry.view_eq_dir_iff.mp hdir
            have hfile : fs.isDirAt (dir ++ [name]) = false := by
              simp [isDirAt, Entry.view_eq_file_iff.mp hold]
            refine ⟨_, dir, name, children, rfl, rfl, hfind, Or.inr ⟨old, hold⟩, ?_⟩
            simpa [hfile, withFile] using h.symm
      | absent dir name =>
          obtain ⟨children, hfind⟩ := Entry.view_eq_dir_iff.mp hreach.1
          refine ⟨_, dir, name, children, rfl, rfl, hfind, Or.inl hreach.2, ?_⟩
          simpa [withFile] using h.symm

/-- **What was written to a path is read from it.** -/
theorem readBytes_of_writeBytes {fs' : FileSystem} {p : Path} {bytes : Bytes}
    (h : fs.writeBytes p bytes = .ok fs') : fs'.readBytes p = .ok bytes := by
  obtain ⟨target, dir, name, children, hresolve, htarget, hdir, hnode, rfl⟩ := writeBytes_ok h
  have hfrom := resolveWhole_ok hresolve fs true
  rw [hresolve] at hfrom
  have hback : (fs.withFile (dir ++ [name]) bytes).resolveWhole false p =
      .ok (.found (dir ++ [name])) := by
    rw [resolveWhole_ok hresolve]
    exact resolveFrom_withFile hdir hnode bytes hfrom.symm htarget
  have hfind : (fs.withFile (dir ++ [name]) bytes).root.find? (dir ++ [name]) =
      some (.file bytes) := Entry.find?_put_self hdir (.file bytes)
  rw [readBytes, stat, hback]
  simp only [hfind]

theorem writeBytes_of_writeText {fs' : FileSystem} {p : Path} {text : Text}
    (h : fs.writeText p text = .ok fs') : fs.writeBytes p (Utf8.encode text) = .ok fs' := by
  unfold writeText at h
  split at h
  · simp at h
  · cases hwrite : fs.writeBytes p (Utf8.encode text) with
    | ok written =>
        obtain rfl : written = fs' := by simpa [hwrite] using h
        rfl
    | error e => simp [hwrite] at h

theorem readBytes_of_writeText {fs' : FileSystem} {p : Path} {text : Text}
    (h : fs.writeText p text = .ok fs') : fs'.readBytes p = .ok (Utf8.encode text) :=
  readBytes_of_writeBytes (writeBytes_of_writeText h)

/-! ### What writing leaves alone -/

/-- The files differ at most in the file at one location, which holds the given bytes and was
absent before if it was no file. -/
structure DifferAt (loc : Location) (bytes : Bytes) (before after : FileSystem) : Prop where
  cwd : after.cwd = before.cwd
  old : before.root.view loc = none ∨ ∃ old, before.root.view loc = some (.file old)
  new : after.root.view loc = some (.file bytes)
  others : ∀ other, other ≠ loc → after.root.view other = before.root.view other

/-- The location that is written to is the one that the path leads to. -/
theorem location_of_writeLocation {p : Path} {target : Target} {loc : Location}
    (hresolve : fs.resolveWhole true p = .ok target) (h : fs.writeLocation p = .ok loc) :
    target.location = loc := by
  unfold writeLocation at h
  rw [hresolve] at h
  cases target with
  | found here =>
      dsimp only at h
      split at h
      · simp at h
      · exact Except.ok.inj h
  | absent dir name => exact Except.ok.inj h

/-- **Writing to a path touches one file only**, the one that the path leads to. -/
theorem differAt_of_writeText {after : FileSystem} {p : Path} {text : Text}
    (h : fs.writeText p text = .ok after) :
    ∃ loc, fs.writeLocation p = .ok loc ∧ DifferAt loc (Utf8.encode text) fs after := by
  have hwrite := writeBytes_of_writeText h
  obtain ⟨target, dir, name, children, hresolve, htarget, hdir, hnode, rfl⟩ :=
    writeBytes_ok hwrite
  unfold writeBytes at hwrite
  split at hwrite
  · rename_i loc hloc
    obtain rfl : dir ++ [name] = loc := htarget.symm.trans (location_of_writeLocation hresolve hloc)
    exact ⟨_, hloc, rfl, hnode, view_withFile_self hdir _,
      fun other hne => view_withFile_of_ne hdir hnode _ hne⟩
  · simp at hwrite

end FileSystem

end AnnotationLog
