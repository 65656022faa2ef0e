/-
What a search returns.

A search reads the files of a walk one after another.  Each file either is skipped or
scanned, so after any number of files the session is that of the files that could be
read, scanned one after another, and so are the counters.  `Searched` says this of a
stretch of files; it holds of one file, and two stretches make a longer one.

Which files are walked is fixed by what stands where in the tree and by the ending
that the extension asks for, and so is the whole result.
-/
import AnnotationLog.Log.Search
import AnnotationLog.Proofs.Files.Walk
import AnnotationLog.Proofs.Session
import AnnotationLog.Proofs.Text.Basic

namespace AnnotationLog

/-! ### The wanted ending -/

/-- What an extension without white space around it asks names to end in: the extension, with a
dot in front unless it has one or is empty. -/
inductive Dotted : Text → Text → Prop
  | empty : Dotted [] []
  | dotted (t : Text) : Dotted ('.' :: t) ('.' :: t)
  | plain {c : Char} (hc : c ≠ '.') (t : Text) : Dotted (c :: t) ('.' :: c :: t)

/-- An extension asks names to end in something.  White space around it does not count. -/
def AsksFor (extension ending : Text) : Prop :=
  ∃ before t behind, extension = before ++ (t ++ behind) ∧
    (∀ c ∈ before, Unicode.isWhiteSpace c = true) ∧ (∀ c ∈ behind, Unicode.isWhiteSpace c = true) ∧
    (∀ c ∈ t.head?, Unicode.isWhiteSpace c = false) ∧
    (∀ c ∈ t.getLast?, Unicode.isWhiteSpace c = false) ∧ Dotted t ending

theorem dotted_iff {t ending : Text} : Dotted t ending ↔
    ending = if t.isEmpty || t.head? == some '.' then t else '.' :: t := by
  constructor
  · intro h
    cases h with
    | empty => rfl
    | dotted t => rfl
    | plain hc t => simp [hc]
  · rintro rfl
    match t with
    | [] => exact .empty
    | c :: t =>
        by_cases hc : c = '.'
        · subst hc
          exact .dotted t
        · simpa [hc] using Dotted.plain hc t

/-- The ending of a search is the one that the extension asks for, and it asks for no other. -/
theorem asksFor_iff {extension ending : Text} :
    AsksFor extension ending ↔ ending = extensionEnding extension := by
  constructor
  · rintro ⟨before, t, behind, rfl, hbefore, hbehind, hfirst, hlast, hdotted⟩
    rw [extensionEnding, Text.trim_of_ends hbefore hbehind hfirst hlast]
    exact dotted_iff.mp hdotted
  · rintro rfl
    obtain ⟨before, behind, hsplit, hbefore, hbehind⟩ := Text.trim_split extension
    obtain ⟨hfirst, hlast⟩ := Text.trim_ends extension
    exact ⟨before, _, behind, hsplit, hbefore, hbehind, hfirst, hlast, dotted_iff.mpr rfl⟩

/-! ### Files that can be read -/

/-- The text of a file that is small enough and holds text. -/
def sourceText? (limit : Nat) (bytes : Bytes) : Option Text :=
  if bytes.length ≤ limit then (decodeText bytes).toOption else none

theorem sourceText?_eq_some_iff {limit : Nat} {bytes : Bytes} {text : Text} :
    sourceText? limit bytes = some text ↔
      bytes.length ≤ limit ∧ decodeText bytes = .ok text := by
  unfold sourceText?
  by_cases hle : bytes.length ≤ limit
  · rw [if_pos hle]
    cases decodeText bytes <;> simp [Except.toOption, hle]
  · simp [hle]

theorem decodeSource_of_sourceText? {limit : Nat} {bytes : Bytes} {text : Text}
    (h : sourceText? limit bytes = some text) : decodeSource limit bytes = .ok text := by
  obtain ⟨hle, hdecode⟩ := sourceText?_eq_some_iff.mp h
  rw [decodeSource, if_neg (Nat.not_lt.mpr hle), hdecode]

theorem decodeSource_of_none {limit : Nat} {bytes : Bytes} (h : sourceText? limit bytes = none) :
    ∃ e, decodeSource limit bytes = .error e := by
  rw [decodeSource]
  by_cases hle : bytes.length ≤ limit
  · rw [if_neg (Nat.not_lt.mpr hle)]
    cases hdecode : decodeText bytes with
    | ok text => simp [sourceText?_eq_some_iff.mpr ⟨hle, hdecode⟩] at h
    | error e => exact ⟨e, rfl⟩
  · rw [if_pos (Nat.not_le.mp hle)]
    exact ⟨_, rfl⟩

theorem sourceText?_encode {limit : Nat} {t : Text} (hzero : '\x00' ∉ t)
    (hle : (Utf8.encode t).length ≤ limit) : sourceText? limit (Utf8.encode t) = some t := by
  exact sourceText?_eq_some_iff.mpr ⟨hle, Utf8.decodeText_encode hzero⟩

/-! ### Paths of findings -/

/-- The path of a location from the parent of the root on, or from the root on when it has no
parent. -/
def searchPath (root loc : Location) : Path :=
  Text.join ['/'] (loc.drop root.dropLast.length)

/-- The texts of the files that can be read, each with its path from the parent of the root on. -/
def readable (root : Location) (limit : Nat) (files : List (Location × Bytes)) :
    List (Path × Text) :=
  files.filterMap fun f => (sourceText? limit f.2).map (searchPath root f.1, ·)

/-- Names put together with slashes can be told apart again. -/
theorem join_names_injective {a b : Location} (ha : ∀ n ∈ a, IsName n) (hb : ∀ n ∈ b, IsName n)
    (h : Text.join ['/'] a = Text.join ['/'] b) : a = b := by
  have hne : ∀ c : Location, c ≠ [] → (∀ n ∈ c, IsName n) → Text.join ['/'] c ≠ [] := by
    intro c hc hnames
    obtain ⟨n, more, rfl⟩ := List.exists_cons_of_ne_nil hc
    exact Text.join_ne_nil _ (hnames n List.mem_cons_self).ne_nil more
  have hsplit : ∀ c : Location, c ≠ [] → (∀ n ∈ c, IsName n) →
      List.splitOn '/' (Text.join ['/'] c) = c := by
    intro c hc hnames
    exact List.splitOn_intercalate '/' (fun n hn => (hnames n hn).no_slash) hc
  by_cases hnil : a = []
  · by_cases hnil' : b = []
    · rw [hnil, hnil']
    · rw [hnil] at h
      exact absurd h.symm (hne b hnil' hb)
  · by_cases hnil' : b = []
    · rw [hnil'] at h
      exact absurd h (hne a hnil ha)
    · rw [← hsplit a hnil ha, h, hsplit b hnil' hb]

theorem searchPath_append (root l : Location) :
    searchPath root (root ++ l) = Text.join ['/'] (root.drop root.dropLast.length ++ l) := by
  rw [searchPath, List.drop_append_of_le_length (by simp)]

/-- Different files of a walk have different paths. -/
theorem IsWalk.nodup_paths {tree : Entry} {root : Location} {ending : Text}
    {files : List (Location × Bytes)} (hnamed : tree.WellNamed)
    (h : IsWalk tree root ending files) : (files.map fun f => searchPath root f.1).Nodup := by
  refine List.Nodup.map_on ?_ h.nodup
  rintro ⟨loc, bytes⟩ hf ⟨loc', bytes'⟩ hf' heq
  obtain ⟨⟨l, rfl⟩, hfind, -⟩ := (h.mem_iff loc bytes).mp hf
  obtain ⟨⟨l', rfl⟩, hfind', -⟩ := (h.mem_iff loc' bytes').mp hf'
  have hnames : ∀ m : Location, (∀ n ∈ root ++ m, IsName n) →
      ∀ n ∈ root.drop root.dropLast.length ++ m, IsName n := by
    intro m hm n hn
    rcases List.mem_append.mp hn with hn | hn
    · exact hm n (List.mem_append_left m (List.mem_of_mem_drop hn))
    · exact hm n (List.mem_append_right root hn)
  rw [searchPath_append, searchPath_append] at heq
  have hlists := join_names_injective (hnames l (hnamed.find? hfind).1)
    (hnames l' (hnamed.find? hfind').1) heq
  obtain rfl : l = l' := List.append_cancel_left hlists
  obtain rfl : bytes = bytes' := by simpa [hfind] using hfind'
  rfl

/-! ### Reading one file after another -/

/-- What a search of some files, of which those with the given texts can be read, makes of what
was found before. -/
structure Searched (r : Registry) (sources : List (Path × Text)) (unread : Nat)
    (before after : Session × SearchStats) : Prop where
  session : after.1 = before.1.scanAll r sources
  scanned : after.2.scanned = before.2.scanned + sources.length
  skipped : after.2.skipped = before.2.skipped + unread
  total : after.1.total + before.2.matched = before.1.total + after.2.matched

namespace Searched

variable {r : Registry} {sources sources' : List (Path × Text)} {unread unread' : Nat}
  {a b c : Session × SearchStats}

theorem refl (r : Registry) (a : Session × SearchStats) : Searched r [] 0 a a where
  session := rfl
  scanned := rfl
  skipped := rfl
  total := rfl

theorem trans (hab : Searched r sources unread a b) (hbc : Searched r sources' unread' b c) :
    Searched r (sources ++ sources') (unread + unread') a c where
  session := by rw [hbc.session, hab.session, Session.scanAll_append]
  scanned := by rw [hbc.scanned, hab.scanned, List.length_append, Nat.add_assoc]
  skipped := by rw [hbc.skipped, hab.skipped, Nat.add_assoc]
  total := by
    have h1 := hab.total
    have h2 := hbc.total
    omega

/-- What was searched fixes the result. -/
theorem unique (hb : Searched r sources unread a b) (hc : Searched r sources unread a c) :
    b = c := by
  have hsession : b.1 = c.1 := hb.session.trans hc.session.symm
  have hmatched : b.2.matched = c.2.matched := by
    have h1 := hb.total
    have h2 := hc.total
    rw [hsession] at h1
    omega
  have hstats : b.2 = c.2 := by
    rw [SearchStats.mk.injEq]
    exact ⟨hb.scanned.trans hc.scanned.symm, hb.skipped.trans hc.skipped.symm, hmatched⟩
  exact Prod.ext hsession hstats

end Searched

/-- A file of a walk as a search comes upon it. -/
def FoundFile.ofWalk (root : Location) (f : Location × Bytes) : FoundFile where
  names := f.1.drop root.dropLast.length
  bytes := f.2

theorem searched_file (r : Registry) (root : Location) (limit : Nat)
    (found : Session × SearchStats) (f : Location × Bytes) :
    Searched r (readable root limit [f]) (1 - (readable root limit [f]).length) found
      (searchFile r limit found (FoundFile.ofWalk root f)) := by
  cases htext : sourceText? limit f.2 with
  | none =>
      obtain ⟨e, he⟩ := decodeSource_of_none htext
      have hread : readable root limit [f] = [] := by simp [readable, htext]
      rw [hread, searchFile, FoundFile.ofWalk]
      simp only [he]
      exact ⟨rfl, rfl, rfl, rfl⟩
  | some text =>
      have hread : readable root limit [f] = [(searchPath root f.1, text)] := by
        simp [readable, htext]
      rw [hread, searchFile, FoundFile.ofWalk]
      simp only [decodeSource_of_sourceText? htext]
      refine ⟨rfl, rfl, rfl, ?_⟩
      rw [Session.total_scan]
      dsimp only
      omega

theorem length_readable_le (root : Location) (limit : Nat) (files : List (Location × Bytes)) :
    (readable root limit files).length ≤ files.length :=
  List.length_filterMap_le _ _

theorem readable_append (root : Location) (limit : Nat) (files files' : List (Location × Bytes)) :
    readable root limit (files ++ files') =
      readable root limit files ++ readable root limit files' :=
  List.filterMap_append

/-- A search of some files finds what can be read of them. -/
theorem searched_files (r : Registry) (root : Location) (limit : Nat)
    (found : Session × SearchStats) (files : List (Location × Bytes)) :
    Searched r (readable root limit files) (files.length - (readable root limit files).length)
      found ((files.map (FoundFile.ofWalk root)).foldl (searchFile r limit) found) := by
  induction files generalizing found with
  | nil => exact Searched.refl r found
  | cons f files ih =>
      have hstep := (searched_file r root limit found f).trans
        (ih (searchFile r limit found (FoundFile.ofWalk root f)))
      rw [← readable_append, List.singleton_append] at hstep
      have hone := length_readable_le root limit [f]
      have hrest := length_readable_le root limit files
      have hlength : (readable root limit (f :: files)).length =
          (readable root limit [f]).length + (readable root limit files).length := by
        rw [← List.length_append, ← readable_append, List.singleton_append]
      have hunread : 1 - (readable root limit [f]).length +
          (files.length - (readable root limit files).length) =
            (f :: files).length - (readable root limit (f :: files)).length := by
        rw [List.length_singleton] at hone
        rw [List.length_cons]
        omega
      rwa [hunread] at hstep

/-! ### The search -/

theorem getLast?_drop_dropLast (root l : Location) :
    ((root ++ l).drop root.dropLast.length).getLast? = (root ++ l).getLast? := by
  rw [List.getLast?_drop]
  split
  · rename_i hle
    rw [List.length_append, List.length_dropLast] at hle
    have hnil : root ++ l = [] := by
      rw [← List.length_eq_zero_iff, List.length_append]
      omega
    rw [hnil]
    rfl
  · rfl

/-- The files to search are those of the walk. -/
theorem filesToSearch_eq (root : Location) (entry : Entry) (ending : Text) :
    filesToSearch root entry ending = (walk root entry ending).map (FoundFile.ofWalk root) := by
  have hnames : ∀ l : Location,
      (root ++ l).drop root.dropLast.length = root.drop (root.length - 1) ++ l := by
    intro l
    rw [List.length_dropLast, List.drop_append_of_le_length (by omega)]
  rw [filesToSearch, walk, List.filter_map, List.filter_map, List.map_map]
  have hsame : ∀ f : Location × Bytes, FoundFile.hasEnding ending
      { names := root.drop (root.length - 1) ++ f.1, bytes := f.2 } =
        Text.endsWith ending ((root ++ f.1).getLast?.getD []) := by
    intro f
    rw [FoundFile.hasEnding, ← hnames, getLast?_drop_dropLast]
  simp only [Function.comp_def, hsame, FoundFile.ofWalk, hnames]

theorem find?_of_canonical {fs : FileSystem} {p : Path} {root : Location}
    (h : fs.canonical p = .ok root) : ∃ entry, fs.root.find? root = some entry := by
  unfold FileSystem.canonical FileSystem.resolve at h
  split at h
  · rename_i loc hresolve
    obtain rfl : loc = root := by simpa using h
    split at hresolve
    · simp at hresolve
    · -- A path has at least one piece, and what it leads to exists.
      have hreach : fs.Reaches (.found loc) :=
        FileSystem.reaches_of_resolveFrom (Or.inl (List.splitOn_ne_nil _ _)) hresolve
      rcases hreach with hdir | ⟨dir, name, bytes, -, -, hfile⟩
      · obtain ⟨children, hfind⟩ := Entry.view_eq_dir_iff.mp hdir
        exact ⟨_, hfind⟩
      · exact ⟨_, Entry.view_eq_file_iff.mp hfile⟩
  · simp at h
  · simp at h

/-- A search reads the files of the walk. -/
theorem search_eq {fs : FileSystem} {r : Registry} (hr : r.isEmpty = false) {p : Path}
    {root : Location} (hroot : fs.canonical p = .ok root) {entry : Entry}
    (hentry : fs.root.find? root = some entry) (limit : Nat) (extension : Text) (s : Session) :
    ∃ found, search fs r limit p extension s = .ok found ∧
      let files := walk root entry (extensionEnding extension)
      Searched r (readable root limit files) (files.length - (readable root limit files).length)
        (s.sync r, {}) found := by
  refine ⟨_, ?_, searched_files r root limit (s.sync r, {}) _⟩
  unfold search
  simp only [hr, hroot, hentry, filesToSearch_eq]
  rfl

/-- A search that succeeds has read the files of a walk. -/
theorem search_eq_ok {fs : FileSystem} {r : Registry} {limit : Nat} {p : Path} {extension : Text}
    {s : Session} {found : Session × SearchStats}
    (h : search fs r limit p extension s = .ok found) :
    ∃ root entry, fs.canonical p = .ok root ∧ fs.root.find? root = some entry ∧
      let files := walk root entry (extensionEnding extension)
      Searched r (readable root limit files) (files.length - (readable root limit files).length)
        (s.sync r, {}) found := by
  have hr : r.isEmpty = false := by
    by_contra hr
    rw [search, if_pos (by simpa using hr)] at h
    simp at h
  cases hroot : fs.canonical p with
  | error e => simp [search, hr, hroot] at h
  | ok root =>
      obtain ⟨entry, hentry⟩ := find?_of_canonical hroot
      obtain ⟨found', hfound', hsearched⟩ := search_eq hr hroot hentry limit extension s
      obtain rfl : found' = found := Except.ok.inj (hfound'.symm.trans h)
      exact ⟨root, entry, rfl, hentry, hsearched⟩

/-- **A search returns what can be read of the walk.**  The files at or below the root whose names
have the wanted ending are taken in the order of their locations; the ending is the extension
without white space around it and with a dot in front, unless it has one or is empty.  Those within
the limit that hold text count as scanned and the others as skipped; every kind gets what it finds
in the texts, file by file, behind what it had, and the third counter is how many findings there
are more.  Different files have different paths.  All this depends only on what stands where in the
tree, not on the order in which directories list it. -/
theorem search_exact {fs : FileSystem} (hnamed : fs.root.WellNamed) {r : Registry}
    (hr : r.isEmpty = false) {p : Path} {root : Location} (hroot : fs.canonical p = .ok root)
    (limit : Nat) (extension : Text) (s : Session) :
    ∃ (ending : Text) (files : List (Location × Bytes)) (found : Session) (stats : SearchStats),
      AsksFor extension ending ∧
      IsWalk fs.root root ending files ∧
      (files.map fun f => searchPath root f.1).Nodup ∧
      search fs r limit p extension s = .ok (found, stats) ∧
      stats.scanned = (readable root limit files).length ∧
      stats.skipped = files.length - (readable root limit files).length ∧
      found.total = s.total + stats.matched ∧
      (∀ i k, r.get? i = some k →
        found.matched i = s.matched i ++ k.findingsIn (readable root limit files)) ∧
      (∀ i, r.get? i = none → found.matched i = s.matched i) ∧
      ∀ fs' : FileSystem, fs'.root.WellNamed → fs'.cwd = fs.cwd →
        fs'.root.view = fs.root.view →
          search fs' r limit p extension s = search fs r limit p extension s := by
  obtain ⟨entry, hentry⟩ := find?_of_canonical hroot
  obtain ⟨⟨found, stats⟩, hfound, hsearched⟩ := search_eq hr hroot hentry limit extension s
  have hwalk := isWalk_walk hnamed hentry (extensionEnding extension)
  have hmatched : ∀ i, found.matched i = s.matched i ++ ((r.get? i).map fun k =>
      k.findingsIn (readable root limit (walk root entry (extensionEnding extension)))).getD [] := by
    intro i
    rw [show found = _ from hsearched.session, Session.matched_scanAll_at, Session.matched_sync]
    rfl
  refine ⟨extensionEnding extension, _, found, stats, asksFor_iff.mpr rfl, hwalk,
    hwalk.nodup_paths hnamed, hfound, ?_, ?_, ?_, ?_, ?_, ?_⟩
  · simpa using hsearched.scanned
  · simpa using hsearched.skipped
  · have hsync : (s.sync r).total = s.total := Session.total_grow s r.size
    simpa [hsync] using hsearched.total
  · intro i k hk
    rw [hmatched, hk]
    rfl
  · intro i hk
    rw [hmatched, hk]
    exact List.append_nil _
  · intro fs' hnamed' hcwd hview
    have hroot' : fs'.canonical p = .ok root := by
      rw [FileSystem.canonical_congr hview hcwd, hroot]
    obtain ⟨entry', hentry'⟩ := find?_of_canonical hroot'
    obtain ⟨found', hfound', hsearched'⟩ := search_eq hr hroot' hentry' limit extension s
    have hwalk' := isWalk_walk hnamed' hentry' (extensionEnding extension)
    rw [← (hwalk.of_view hview).unique hwalk'] at hsearched'
    rw [hfound', hfound, hsearched'.unique hsearched]

/-! ### A directory beside a file whose name begins alike -/

/-- A directory and a file whose names begin alike, a file that holds no text, a link, and files
whose names end like the others but for a dot or a letter. -/
def neighbours : List (Text × Entry) :=
  [("b.py".toList, .file [0]),
   ("a.py".toList, .file (Utf8.encode "# Todo: one\n".toList)),
   ("c.R".toList, .file (Utf8.encode "# Todo: three\n".toList)),
   ("copy".toList, .file (Utf8.encode "# Todo: four\n".toList)),
   ("l.py".toList, .link "a.py".toList),
   ("a".toList, .dir [("z.py".toList, .file (Utf8.encode "# Todo: two\n".toList))])]

theorem wellNamed_neighbours {children : List (Text × Entry)} (h : children.Perm neighbours) :
    (Entry.dir children).WellNamed := by
  refine .dir ?_ ((h.map Prod.fst).nodup_iff.mpr (by decide)) ?_
  · intro c hc
    have hname : ∀ c ∈ neighbours.map Prod.fst, c ≠ [] ∧ c ≠ ['.'] ∧ c ≠ ['.', '.'] ∧
        '/' ∉ c ∧ '\x00' ∉ c := by decide
    obtain ⟨h1, h2, h3, h4, h5⟩ := hname c.1 (List.mem_map_of_mem (h.mem_iff.mp hc))
    exact ⟨h1, h2, h3, h4, h5⟩
  · intro c hc
    have hc := h.mem_iff.mp hc
    simp only [neighbours, List.mem_cons, List.not_mem_nil, or_false] at hc
    rcases hc with rfl | rfl | rfl | rfl | rfl | rfl
    · exact .file _
    · exact .file _
    · exact .file _
    · exact .file _
    · exact .link _
    · refine .dir ?_ (by decide) ?_
      · simpa using ⟨by decide, by decide, by decide, by decide, by decide⟩
      · simpa using Entry.WellNamed.file _

theorem files_neighbours : (Entry.dir neighbours).files =
    [(["a".toList, "z.py".toList], Utf8.encode "# Todo: two\n".toList),
     (["a.py".toList], Utf8.encode "# Todo: one\n".toList), (["b.py".toList], [0]),
     (["c.R".toList], Utf8.encode "# Todo: three\n".toList),
     (["copy".toList], Utf8.encode "# Todo: four\n".toList)] := by
  simp [Entry.files, Entry.filesIn, neighbours, List.mergeSort, Text.le]

/-- The directory `a` is walked before the file `a.py`, as the names ask and unlike what the whole
paths would give, and so it is when the children are listed the other way round.  The files `c.R`
and `copy` are not wanted. -/
theorem search_exact_neighbours :
    let fs : FileSystem := { root := .dir neighbours, cwd := [] }
    let fs' : FileSystem := { root := .dir neighbours.reverse, cwd := [] }
    let r := Registry.forLogType .todoList
    search fs' r 100 ['.'] " py\t".toList {} = search fs r 100 ['.'] " py\t".toList {} ∧
      ∃ found stats, search fs r 100 ['.'] " py\t".toList {} = .ok (found, stats) ∧
        stats.scanned = 2 ∧ stats.skipped = 1 ∧
        (found.matched 0).map Finding.path = ["a/z.py".toList, "a.py".toList] := by
  intro fs fs' r
  have hnamed : fs.root.WellNamed := wellNamed_neighbours (.refl _)
  have hroot : fs.canonical ['.'] = .ok [] := FileSystem.canonical_dot rfl
  obtain ⟨ending, files, found, stats, hasks, hwalk, -, hfound, hscanned, hskipped, -, hmatched, -,
    hsame⟩ := search_exact hnamed (r := r) (by decide) hroot 100 " py\t".toList {}
  obtain rfl := asksFor_iff.mp hasks
  obtain rfl := hwalk.unique (isWalk_walk hnamed (Entry.find?_nil _) _)
  rw [walk, files_neighbours] at hscanned hskipped hmatched
  refine ⟨hsame fs' (wellNamed_neighbours (List.reverse_perm _)) rfl ?_, found, stats, hfound,
    hscanned.trans (by decide +kernel), hskipped.trans (by decide +kernel), ?_⟩
  · exact Entry.view_perm (by decide) (List.reverse_perm _).symm
  · rw [hmatched 0 _ rfl]
    decide +kernel

end AnnotationLog
