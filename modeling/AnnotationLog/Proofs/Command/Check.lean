/-
Checking the log that was just written.

A run without settings writes its log into the directory it searches, and so a check
right behind it searches the log as well.  Whether the check finds the log up to date
therefore hangs on the text of the log: an entry that reads as an annotation is
collected by the check and missing in the log.  The day makes no difference as long
as it is written with a year of four digits.
-/
import AnnotationLog.Proofs.Command.FirstRun

namespace AnnotationLog.Command

variable {fs : FileSystem} {children : List (Text × Entry)}

/-! ### A check against a log that is there -/

theorem readText_of_file (hcwd : fs.root.find? fs.cwd = some (.dir children)) {log : Text}
    (hnul : '\x00' ∉ log) (hlog : children.lookup defaultLog = some (.file (Utf8.encode log))) :
    fs.exists? defaultLog = true ∧ fs.readText defaultLog = .ok log := by
  have hstat := fs.stat_of_file isFileName_defaultLog hcwd hlog
  constructor
  · rw [FileSystem.exists?, hstat]
    rfl
  · rw [FileSystem.readText, FileSystem.readBytes, hstat]
    exact Utf8.decodeText_encode hnul

/-- A check compares the log that is there with the log of the current directory. -/
theorem run_check (hnames : ∀ n ∈ fs.cwd, IsName n)
    (hcwd : fs.root.find? fs.cwd = some (.dir children))
    (hconfig : children.lookup configFileName = none) {log : Text} (hnul : '\x00' ∉ log)
    (hlog : children.lookup defaultLog = some (.file (Utf8.encode log))) (today : Date) :
    run fs today ["--check".toList] =
      (.ended (if sameExceptDates log (currentLog fs.cwd (.dir children) today)
        then .unchanged .assumptionsCaveats else .outOfDate defaultLog), fs) := by
  obtain ⟨hexists, hread⟩ := readText_of_file hcwd hnul hlog
  have hsave : saveLog fs defaultLog true (currentLog fs.cwd (.dir children) today) =
      .ok (!sameExceptDates log (currentLog fs.cwd (.dir children) today), fs) := by
    have hchanged : hasChanged fs defaultLog (currentLog fs.cwd (.dir children) today) =
        .ok (!sameExceptDates log (currentLog fs.cwd (.dir children) today)) := by
      rw [hasChanged, if_pos hexists, hread]
    rw [saveLog, hchanged]
    cases sameExceptDates log (currentLog fs.cwd (.dir children) today) <;> rfl
  have hrun := runOptions_default (o := { flags := [.check] }) hnames hcwd hconfig rfl hsave
  rw [run, parse_check]
  simp only [show Options.has { flags := [.check] } .help = false from rfl, hrun]
  cases sameExceptDates log (currentLog fs.cwd (.dir children) today) <;> rfl

/-! ### What the log adds -/

/-- What is found in a log that stands in the current directory. -/
def readAs (cwd : Location) (bytes : Bytes) (b : BuiltinKind) : List Finding :=
  b.kind.findingsIn (readable cwd defaultMaxBytes [(cwd ++ [defaultLog], bytes)])

namespace Fresh

variable (h : Fresh fs children)

include h

theorem nulFree_of_mem_collected {b : BuiltinKind} {f : Finding}
    (hf : f ∈ collected fs.cwd (.dir children) b) : f.NulFree := by
  obtain ⟨source, hsource, hfind⟩ := List.mem_flatMap.mp hf
  obtain ⟨fields, hfields, rfl⟩ := List.mem_map.mp hfind
  obtain ⟨file, hfile, hread⟩ := List.mem_filterMap.mp hsource
  obtain ⟨⟨loc, bytes⟩, hmem, rfl⟩ := List.mem_map.mp hfile
  obtain ⟨text, htext, rfl⟩ := Option.map_eq_some_iff.mp hread
  refine ⟨?_, (find_from hfields).mono ?_⟩
  · intro hc
    rw [searchPath_append] at hc
    rcases Text.mem_join hc with hsep | ⟨name, hname, hc⟩
    · exact absurd hsep (by decide)
    · rcases List.mem_append.mp hname with hname | hname
      · exact (h.names name (List.mem_of_mem_drop hname)).no_nul hc
      · exact ((h.named.find? h.here).2.mem_files hmem name hname).no_nul hc
  · rintro c hc rfl
    have hdecode := (sourceText?_eq_some_iff.mp htext).2
    exact Utf8.nul_notMem_of_decodeText hdecode (h.noZero (loc, bytes) hmem) hc

theorem nul_notMem_currentLog (date : Date) :
    '\x00' ∉ currentLog fs.cwd (.dir children) date :=
  nul_notMem_standardLog (fun _ => h.nulFree_of_mem_collected)
    (fun _ => h.nulFree_of_mem_collected) date

/-- The log adds what it reads as to what was collected, at the place where the walk meets it. -/
theorem collected_withLog (bytes : Bytes) :
    ∃ before behind : BuiltinKind → List Finding,
      (∀ b, collected fs.cwd (.dir children) b = before b ++ behind b) ∧
      ∀ b, collected fs.cwd (.dir (Entry.setChild defaultLog (.file bytes) children)) b =
        before b ++ (readAs fs.cwd bytes b ++ behind b) := by
  obtain ⟨before, behind, hold, hnew⟩ :=
    Entry.files_setChild (h.named.find? h.here).2.distinct h.noLog bytes
  let found (files : List (Location × Bytes)) (b : BuiltinKind) : List Finding :=
    b.kind.findingsIn (readable fs.cwd defaultMaxBytes (files.map fun f => (fs.cwd ++ f.1, f.2)))
  refine ⟨found before, found behind, fun b => ?_, fun b => ?_⟩
  · rw [collected, currentSources, hold, List.map_append, readable_append, Kind.findingsIn_append]
  · rw [collected, currentSources, hnew, List.map_append, List.map_cons,
      ← List.singleton_append, readable_append, readable_append, Kind.findingsIn_append,
      Kind.findingsIn_append]
    rfl

end Fresh

/-! ### The check behind the run -/

/-- A log that a search reads as a source of annotations. -/
def ReadsAsSource (log : Text) : Prop :=
  (Utf8.encode log).length ≤ defaultMaxBytes ∧
    (BuiltinKind.assumption.kind.find log ≠ [] ∨ BuiltinKind.caveat.kind.find log ≠ [])

instance (log : Text) : Decidable (ReadsAsSource log) :=
  inferInstanceAs (Decidable (_ ∧ _))

theorem readAs_ne_nil_iff {log : Text} (hnul : '\x00' ∉ log) (cwd : Location) (b : BuiltinKind) :
    readAs cwd (Utf8.encode log) b ≠ [] ↔
      (Utf8.encode log).length ≤ defaultMaxBytes ∧ b.kind.find log ≠ [] := by
  by_cases hle : (Utf8.encode log).length ≤ defaultMaxBytes
  · simp [readAs, readable, Kind.findingsIn, sourceText?_encode hnul hle, hle]
  · simp [readAs, readable, Kind.findingsIn, sourceText?, hle]

/-- The log as written and the log of the directory that has it. -/
theorem Fresh.sameExceptDates_withLog (h : Fresh fs children) {log : Text} {d : Date}
    (hlog : log = currentLog fs.cwd (.dir children) d) (e : Date) :
    sameExceptDates log (currentLog fs.cwd
        (.dir (Entry.setChild defaultLog (.file (Utf8.encode log)) children)) e) = true ↔
      (d = e ∨ d.Plain ∧ e.Plain) ∧ ¬ ReadsAsSource log := by
  have hnul : '\x00' ∉ log := hlog ▸ h.nul_notMem_currentLog d
  obtain ⟨before, behind, hold, hnew⟩ := h.collected_withLog (Utf8.encode log)
  have hfind := readAs_ne_nil_iff hnul fs.cwd
  -- What the log reads as is named, so that its text can be rewritten without it.
  generalize readAs fs.cwd (Utf8.encode log) = new at hnew hfind
  have hsource : ReadsAsSource log ↔ new .assumption ≠ [] ∨ new .caveat ≠ [] := by
    rw [ReadsAsSource, hfind, hfind, and_or_left]
  rw [hsource, currentLog, hnew, hnew, hlog, currentLog, hold, hold]
  by_cases hread : new .assumption ≠ [] ∨ new .caveat ≠ []
  · simp [sameExceptDates_standardLog_insert hread d e, hread]
  · obtain ⟨hassumption, hcaveat⟩ := not_or.mp hread
    rw [not_not.mp hassumption, not_not.mp hcaveat]
    simp [sameExceptDates_standardLog_iff]

theorem Fresh.run_check_withLog (h : Fresh fs children) (d e : Date) :
    run (withLog fs (currentLog fs.cwd (.dir children) d)) e ["--check".toList] =
      (.ended (if (d = e ∨ d.Plain ∧ e.Plain) ∧
          ¬ ReadsAsSource (currentLog fs.cwd (.dir children) d)
        then .unchanged .assumptionsCaveats else .outOfDate defaultLog),
       withLog fs (currentLog fs.cwd (.dir children) d)) := by
  have hnames : ∀ n ∈ (withLog fs (currentLog fs.cwd (.dir children) d)).cwd, IsName n := h.names
  have hcheck := run_check hnames (h.find?_withLog _)
    ((Entry.lookup_setChild_other (by decide +kernel) _ children).trans h.noConfig)
    (h.nul_notMem_currentLog d) (Entry.lookup_setChild_self defaultLog _ children) e
  rw [hcheck]
  simp only [withLog, h.sameExceptDates_withLog rfl e]

/-- **A run writes the log, and a check behind it finds the log up to date exactly if the days are
written alike and the log does not itself read as a source of annotations.**  Days of four-digit
years are always written alike. -/
theorem check_after_run (h : Fresh fs children) (d e : Date) :
    run fs d [] =
        (.ended (.documented defaultLog), withLog fs (currentLog fs.cwd (.dir children) d)) ∧
      run (withLog fs (currentLog fs.cwd (.dir children) d)) e ["--check".toList] =
        (.ended (if (d = e ∨ d.Plain ∧ e.Plain) ∧
            ¬ ReadsAsSource (currentLog fs.cwd (.dir children) d)
          then .unchanged .assumptionsCaveats else .outOfDate defaultLog),
         withLog fs (currentLog fs.cwd (.dir children) d)) :=
  ⟨h.run_nil d, h.run_check_withLog d e⟩

/-- A check months later finds the log of a caveat up to date. -/
theorem check_after_run_months_later :
    let source := "# Caveat: rates\n# of last year\n".toList
    let after := (run (soleSource source) (firstOf 0) []).2
    Fresh (soleSource source) [("a.py".toList, .file (Utf8.encode source))] ∧
      run after (firstOf 5) ["--check".toList] =
        (.ended (.unchanged .assumptionsCaveats), after) := by
  intro source after
  have hfresh := fresh_soleSource (show '\x00' ∉ source by decide)
  obtain ⟨hrun, hcheck⟩ := check_after_run hfresh (firstOf 0) (firstOf 5)
  have hunread : ¬ ReadsAsSource (currentLog (soleSource source).cwd
      (.dir [("a.py".toList, .file (Utf8.encode source))]) (firstOf 0)) := by
    unfold currentLog standardLog logFront
    -- As lists of characters the words are evaluated much faster than as literals.
    repeat rw [String.toList_ofList]
    decide +kernel
  rw [if_pos ⟨by decide, hunread⟩] at hcheck
  refine ⟨hfresh, ?_⟩
  rw [show after = _ from congrArg Prod.snd hrun]
  exact hcheck

/-- A check on the same day finds the log of a caveat that quotes another one out of date. -/
theorem check_after_run_quoted_caveat :
    let source := "# Caveat: outer\n# # Caveat: inner\n".toList
    let after := (run (soleSource source) (firstOf 0) []).2
    run after (firstOf 0) ["--check".toList] = (.ended (.outOfDate defaultLog), after) := by
  intro source after
  have hfresh := fresh_soleSource (show '\x00' ∉ source by decide)
  have hcheck := hfresh.run_check_withLog (firstOf 0) (firstOf 0)
  have hread : ReadsAsSource (currentLog (soleSource source).cwd
      (.dir [("a.py".toList, .file (Utf8.encode source))]) (firstOf 0)) := by
    unfold currentLog standardLog logFront
    repeat rw [String.toList_ofList]
    decide +kernel
  rw [if_neg fun h => h.2 hread] at hcheck
  rw [show after = _ from congrArg Prod.snd (hfresh.run_nil (firstOf 0))]
  exact hcheck

end AnnotationLog.Command
