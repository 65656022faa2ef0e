/-
A run with default settings.

Without settings on the command line and without a configuration file a run collects
assumptions and caveats in the current directory and writes them with the built-in
template to the default file there.  What it collects and what it writes is said here
in one equation each, so that later arguments need not open the run again.
-/
import AnnotationLog.Command.Run
import AnnotationLog.Proofs.Log.Found
import AnnotationLog.Proofs.Log.Standard

namespace AnnotationLog

namespace Command

/-! ### Settings -/

theorem parse_nil : Options.parse [] = .ok {} := by
  rw [Options.parse, Options.readArgs]

theorem parse_check : Options.parse ["--check".toList] = .ok { flags := [.check] } := by
  have hread : Options.readArg {} "--check".toList [] = .ok ({ flags := [.check] }, false) := by
    decide +kernel
  rw [Options.parse, Options.readArgs, hread]
  exact Options.readArgs.eq_1 _

/-- The file that a run with default settings writes. -/
def defaultLog : Text :=
  LogType.assumptionsCaveats.defaultOutfile

/-- The settings of a run without any. -/
def defaultSettings (dryRun : Bool) : Settings where
  type := .assumptionsCaveats
  outfile := defaultLog
  path := ['.']
  extension := []
  template := none
  maxBytes := none
  dryRun := dryRun

theorem isFileName_defaultLog : IsFileName defaultLog := by
  refine ⟨⟨?_, ?_, ?_, ?_, ?_⟩, ?_⟩ <;> decide +kernel

theorem isFileName_config : IsFileName configFileName := by
  refine ⟨⟨?_, ?_, ?_, ?_, ?_⟩, ?_⟩ <;> decide +kernel

variable {fs : FileSystem} {children : List (Text × Entry)}

/-- The path of the configuration file goes through the names of the current directory. -/
theorem config_path (hnames : ∀ n ∈ fs.cwd, IsName n) :
    Path.join (cwdPath fs) configFileName =
      Text.join ['/'] ([] :: (fs.cwd ++ [configFileName])) := by
  have hrelative := isFileName_config.toIsName.not_absolute
  rw [← List.cons_append, Text.join_concat (by simp)]
  rcases List.eq_nil_or_concat fs.cwd with hnil | ⟨front, n, hcwd⟩
  · rw [Path.join, cwdPath, hnil, hrelative]
    rfl
  · have hn := hnames n (by simp [hcwd])
    have hpath : cwdPath fs = Text.join ['/'] ([] :: fs.cwd) := by
      obtain ⟨next, more, hcons⟩ := List.exists_cons_of_ne_nil
        (show fs.cwd ≠ [] by simp [hcwd])
      rw [cwdPath, hcons, Text.join_cons_cons]
      rfl
    -- The last name does not end in a slash, so one is put between.
    have hlast : (cwdPath fs).getLast? ≠ some '/' := by
      rw [hpath, hcwd, List.concat_eq_append, ← List.cons_append, Text.join_concat (by simp),
        ← List.append_assoc, List.getLast?_append_of_ne_nil _ hn.ne_nil]
      exact fun h => hn.no_slash (List.mem_of_getLast? h)
    rw [Path.join, hrelative, if_neg (by simp [cwdPath]), if_neg (by simpa using hlast), hpath]
    rfl

/-- Without a configuration file all settings are the defaults. -/
theorem configure_default (hnames : ∀ n ∈ fs.cwd, IsName n)
    (hcwd : fs.root.find? fs.cwd = some (.dir children))
    (hconfig : children.lookup configFileName = none) {o : Options} (ho : o.values = []) :
    configure fs o = .ok ({}, defaultSettings (o.has .dryRun || o.has .check)) := by
  have hnone : ∀ setting, o.value? setting = none := by
    intro setting
    rw [Options.value?, ho]
    rfl
  have hload : loadConfig fs o = .ok {} := by
    rw [loadConfig, hnone, Config.loadDefault, config_path hnames,
      fs.not_isFile_absolute hnames isFileName_config hcwd hconfig]
    rfl
  rw [configure, hnone, hload]
  simp only [settings, hnone]
  rfl

/-! ### Searching -/

/-- The files of the current directory that can be read. -/
def currentSources (cwd : Location) (here : Entry) : List (Path × Text) :=
  readable cwd defaultMaxBytes (here.files.map fun f => (cwd ++ f.1, f.2))

/-- What a search of the current directory finds of a kind. -/
def collected (cwd : Location) (here : Entry) (b : BuiltinKind) : List Finding :=
  b.kind.findingsIn (currentSources cwd here)

theorem search_default (hcwd : fs.root.find? fs.cwd = some (.dir children)) (s : Session) :
    ∃ found stats,
      search fs (Registry.forLogType .assumptionsCaveats) defaultMaxBytes ['.'] [] s =
        .ok (found, stats) ∧
      found.matched 0 = s.matched 0 ++ collected fs.cwd (.dir children) .assumption ∧
      found.matched 1 = s.matched 1 ++ collected fs.cwd (.dir children) .caveat := by
  obtain ⟨⟨found, stats⟩, hsearch, hsearched⟩ := search_eq
    (r := Registry.forLogType .assumptionsCaveats) rfl (FileSystem.canonical_dot hcwd) hcwd
    defaultMaxBytes [] s
  have hsession : found = (s.sync (.forLogType .assumptionsCaveats)).scanAll
      (.forLogType .assumptionsCaveats) (currentSources fs.cwd (.dir children)) := by
    rw [currentSources, ← walk_nil]
    exact hsearched.session
  refine ⟨found, stats, hsearch, ?_, ?_⟩
  · rw [hsession, Session.matched_scanAll rfl, Session.matched_sync]
    rfl
  · rw [hsession, Session.matched_scanAll rfl, Session.matched_sync]
    rfl

theorem prepare_default (fs : FileSystem) (dryRun : Bool) :
    ∃ s : Session, (∀ i, s.matched i = []) ∧
      prepare fs (defaultSettings dryRun) [] = .ok
        { type := .assumptionsCaveats
          outfile := defaultLog
          registry := Registry.forLogType .assumptionsCaveats
          session := s } := by
  have hcreate : Log.create fs (defaultSettings dryRun).type.name (defaultSettings dryRun).outfile =
      .ok { type := .assumptionsCaveats, outfile := defaultLog } := by
    have hname : LogType.ofName LogType.assumptionsCaveats.name = .ok .assumptionsCaveats := rfl
    rw [Log.create, defaultSettings, hname,
      FileSystem.namedParent?_name isFileName_defaultLog.toIsName]
    rfl
  refine ⟨{ slots := [{}, {}] }, ?_, ?_⟩
  · intro i
    rcases i with _ | _ | i <;> rfl
  · rw [prepare, hcreate]
    rfl

theorem gather_default (hcwd : fs.root.find? fs.cwd = some (.dir children)) (dryRun : Bool) :
    ∃ found : Session, found.matched 0 = collected fs.cwd (.dir children) .assumption ∧
      found.matched 1 = collected fs.cwd (.dir children) .caveat ∧
      gather fs (defaultSettings dryRun) [] = .ok
        { type := .assumptionsCaveats
          outfile := defaultLog
          registry := Registry.forLogType .assumptionsCaveats
          session := found } := by
  obtain ⟨s, hs, hprepare⟩ := prepare_default fs dryRun
  obtain ⟨found, stats, hsearch, hassumptions, hcaveats⟩ := search_default hcwd s
  refine ⟨found, by simpa [hs] using hassumptions, by simpa [hs] using hcaveats, ?_⟩
  rw [gather, hprepare]
  simp only [Log.find, defaultSettings, Option.getD_none, hsearch]

/-! ### The run -/

/-- The log of the current directory. -/
def currentLog (cwd : Location) (here : Entry) (date : Date) : Text :=
  standardLog (collected cwd here .assumption) (collected cwd here .caveat) date

/-- **A run without settings saves the log of the current directory** or says whether it would. -/
theorem runOptions_default (hnames : ∀ n ∈ fs.cwd, IsName n)
    (hcwd : fs.root.find? fs.cwd = some (.dir children))
    (hconfig : children.lookup configFileName = none) {o : Options} (ho : o.values = [])
    {today : Date} {written : Bool} {files : FileSystem}
    (hsave : saveLog fs defaultLog (o.has .dryRun || o.has .check)
      (currentLog fs.cwd (.dir children) today) = .ok (written, files)) :
    runOptions fs today o =
      (.ended (ending o (defaultSettings (o.has .dryRun || o.has .check)) written), files) := by
  obtain ⟨found, hassumptions, hcaveats, hgather⟩ :=
    gather_default hcwd (o.has .dryRun || o.has .check)
  have hcontent : (compose (Registry.forLogType .assumptionsCaveats) found today
      LogType.assumptionsCaveats.template).1 = currentLog fs.cwd (.dir children) today := by
    rw [currentLog, ← hassumptions, ← hcaveats]
    exact log_standard found today
  have hwrite : writeLog fs (Registry.forLogType .assumptionsCaveats)
      LogType.assumptionsCaveats.template none defaultLog found (o.has .dryRun || o.has .check)
      today = { files
                session := (compose (Registry.forLogType .assumptionsCaveats) found today
                  LogType.assumptionsCaveats.template).2
                outcome := .ok written } := by
    simp only [writeLog, loadTemplate, hcontent, hsave]
  rw [runOptions, configure_default hnames hcwd hconfig ho]
  simp only [hgather]
  simp only [Log.write, defaultSettings, hwrite]

end Command

end AnnotationLog
