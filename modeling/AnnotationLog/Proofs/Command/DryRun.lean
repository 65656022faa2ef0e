/-
A dry run foretells the run.

All that a run decides it decides before it writes: whether it fails, whether the log
is left as it is, or which text goes to which path.  The decision of the whole command
is named here, `plan`.  Of the options it reads the settings alone, and running the
command is the plan carried out, so that only there a dry run or a check parts from a
plain run.

So a check that finds the log out of date says that the plain run comes to write, and
there is nothing else that a plain run can do differently.
-/
import AnnotationLog.Proofs.Command.Effect

namespace AnnotationLog

/-! ### Writing a log -/

/-- **What a dry run answers is what the run does.**  Where it answers that the log would change,
the run writes the filled template or fails in writing. -/
theorem writeLog_foretold (fs : FileSystem) (r : Registry) (builtin : Text)
    (template : Option Path) (out : Path) (s : Session) (date : Date) :
    let dry := writeLog fs r builtin template out s true date
    let real := writeLog fs r builtin template out s false date
    dry.files = fs ∧ real.session = dry.session ∧
      match dry.outcome with
      | .error e => real.outcome = .error e ∧ real.files = fs
      | .ok false => real.outcome = .ok false ∧ real.files = fs
      | .ok true =>
        (∃ text, loadTemplate fs builtin template = .ok text ∧ real.outcome = .ok true ∧
          real.files.readBytes out = .ok (Utf8.encode (compose r s date text).1)) ∨
        ∃ e, real.outcome = .error (.write out e) ∧ real.files = fs := by
  rw [writeLog_eq_carryOut, writeLog_eq_carryOut]
  cases hpending : pendingText fs r builtin template out s date with
  | error e => exact ⟨rfl, rfl, rfl, rfl⟩
  | ok pending =>
      cases pending with
      | none => exact ⟨rfl, rfl, rfl, rfl⟩
      | some content =>
          refine ⟨rfl, rfl, ?_⟩
          obtain ⟨text, hload, rfl⟩ := eq_compose_of_pendingText hpending
          show _ ∨ _
          cases hwrite : fs.writeText out (compose r s date text).1 with
          | error e => exact Or.inr ⟨e, by simp [carryOut, hwrite]⟩
          | ok after =>
              refine Or.inl ⟨text, hload, by simp [carryOut, hwrite], ?_⟩
              simpa [carryOut, hwrite] using FileSystem.readBytes_of_writeText hwrite

namespace Command

/-! ### The plan of a run -/

/-- What a run has decided when nothing has failed: its type of log, the path of the log and the
text to be written there, if any is. -/
structure Plan where
  type : LogType
  outfile : Path
  text : Option Text

/-- What a run decides.  Of the options it reads the settings alone. -/
def plan (fs : FileSystem) (today : Date) (o : Options) : Except Failure Plan :=
  match configure fs o with
  | .error error => .error { error }
  | .ok (config, s) =>
    match gather fs s config.customKinds with
    | .error f => .error f
    | .ok log =>
      match pendingText fs log.registry s.type.template s.template s.outfile log.session today with
      | .error error => .error { error }
      | .ok text => .ok { type := s.type, outfile := s.outfile, text }

/-- Carries out a plan as the flags say. -/
def Plan.carryOut (p : Plan) (fs : FileSystem) (o : Options) : Outcome × FileSystem :=
  match p.text with
  | none => (.ended (.unchanged p.type), fs)
  | some text =>
    if o.has .check then (.ended (.outOfDate p.outfile), fs)
    else if o.has .dryRun then (.ended (.wouldUpdate p.outfile), fs)
    else
      match fs.writeText p.outfile text with
      | .ok after => (.ended (.documented p.outfile), after)
      | .error e => (.failed { error := .write p.outfile e }, fs)

variable {fs : FileSystem} {today : Date} {o o' : Options}

/-- **Running the command is making a plan and carrying it out.** -/
theorem runOptions_eq_carryOut (fs : FileSystem) (today : Date) (o : Options) :
    runOptions fs today o = match plan fs today o with
      | .error f => (.failed f, fs)
      | .ok p => p.carryOut fs o := by
  unfold runOptions plan
  cases hconfigure : configure fs o with
  | error e => rfl
  | ok configured =>
      obtain ⟨config, s⟩ := configured
      dsimp only
      cases hgather : gather fs s config.customKinds with
      | error f => rfl
      | ok log =>
          have hgathered := gathered_of_gather hgather
          dsimp only [Log.write]
          rw [writeLog_eq_carryOut, hgathered.type, hgathered.outfile,
            dryRun_of_configure hconfigure]
          cases pendingText fs log.registry s.type.template s.template s.outfile log.session
            today with
          | error e => rfl
          | ok pending =>
              cases pending with
              | none => rfl
              | some text =>
                  by_cases hcheck : o.has .check = true
                  · simp [AnnotationLog.carryOut, Plan.carryOut, ending, hcheck]
                  · by_cases hdry : o.has .dryRun = true
                    · simp [AnnotationLog.carryOut, Plan.carryOut, ending, hcheck, hdry]
                    · -- A plain run is the only one whose end hangs on the files.
                      cases hwrite : fs.writeText s.outfile text <;>
                        simp [AnnotationLog.carryOut, Plan.carryOut, ending, hcheck, hdry, hwrite]

theorem configure_congr (h : ∀ setting, o'.value? setting = o.value? setting) :
    configure fs o' = (configure fs o).map fun (config, s) =>
      (config, { s with dryRun := o'.has .dryRun || o'.has .check }) := by
  have hload : loadConfig fs o' = loadConfig fs o := by
    unfold loadConfig
    rw [h]
  have hsettings : ∀ config, settings o' config = (settings o config).map fun s =>
      { s with dryRun := o'.has .dryRun || o'.has .check } := by
    intro config
    simp only [settings, h]
    split <;> rfl
  have hrest : (loadConfig fs o' >>= fun config => settings o' config >>= fun s =>
        pure (config, s)) =
      (loadConfig fs o >>= fun config => settings o config >>= fun s =>
        pure (config, s)).map fun (config, s) =>
          (config, { s with dryRun := o'.has .dryRun || o'.has .check }) := by
    rw [hload]
    cases loadConfig fs o with
    | error e => rfl
    | ok config =>
        simp only [bind, Except.bind, hsettings]
        cases settings o config <;> rfl
  unfold configure
  rw [h]
  cases o.value? .logType with
  | none => exact hrest
  | some name =>
      cases hname : LogType.ofName name with
      | error e =>
          simp only [hname]
          rfl
      | ok type =>
          simp only [hname]
          exact hrest

/-- Flags do not change the plan. -/
theorem plan_congr (h : ∀ setting, o'.value? setting = o.value? setting) :
    plan fs today o' = plan fs today o := by
  unfold plan
  rw [configure_congr h]
  cases configure fs o <;> rfl

/-! ### Checks and plain runs -/

/-- A run comes to write a text to a path, unless it is dry or a check. -/
def ComesToWrite (fs : FileSystem) (today : Date) (o : Options) (out : Path) (text : Text) : Prop :=
  ∃ p, plan fs today o = .ok p ∧ p.outfile = out ∧ p.text = some text

/-- The run has exit status 1 and says that the log is out of date. -/
def Outcome.ReportsOutOfDate : Outcome → Prop
  | .ended e => e.status = 1 ∧ " is out of date.".toList <:+ e.message
  | _ => False

theorem runOptions_of_comesToWrite {out : Path} {text : Text}
    (h : ComesToWrite fs today o out text) (hdry : o.has .dryRun = false)
    (hcheck : o.has .check = false) :
    runOptions fs today o = match fs.writeText out text with
      | .ok after => (.ended (.documented out), after)
      | .error e => (.failed { error := .write out e }, fs) := by
  obtain ⟨p, hplan, rfl, htext⟩ := h
  simp only [runOptions_eq_carryOut, hplan, Plan.carryOut, htext, hdry, hcheck]
  rfl

theorem check_of_comesToWrite {out : Path} {text : Text} (h : ComesToWrite fs today o out text)
    (hcheck : o.has .check = true) :
    runOptions fs today o = (.ended (.outOfDate out), fs) := by
  obtain ⟨p, hplan, rfl, htext⟩ := h
  simp only [runOptions_eq_carryOut, hplan, Plan.carryOut, htext, hcheck]
  rfl

/-- A run with nothing to write does not look at its flags. -/
theorem runOptions_of_nothing_to_write (h : ¬ ∃ out text, ComesToWrite fs today o out text) :
    runOptions fs today o = match plan fs today o with
      | .error f => (.failed f, fs)
      | .ok p => (.ended (.unchanged p.type), fs) := by
  rw [runOptions_eq_carryOut]
  cases hplan : plan fs today o with
  | error f => rfl
  | ok p =>
      cases htext : p.text with
      | none => simp only [Plan.carryOut, htext]
      | some text => exact absurd ⟨p.outfile, text, p, hplan, rfl, htext⟩ h

theorem reportsOutOfDate_iff (hcheck : o.has .check = true) :
    (runOptions fs today o).1.ReportsOutOfDate ↔ ∃ out text, ComesToWrite fs today o out text := by
  constructor
  · intro hreport
    by_contra hnothing
    rw [runOptions_of_nothing_to_write hnothing] at hreport
    cases hplan : plan fs today o with
    | error f =>
        rw [hplan] at hreport
        exact hreport
    | ok p =>
        rw [hplan] at hreport
        exact absurd hreport.1 (by simp [Ending.status])
  · rintro ⟨out, text, hwrite⟩
    rw [check_of_comesToWrite hwrite hcheck]
    exact ⟨rfl, List.suffix_append _ _⟩

theorem run_eq_runOptions {args : List Text} (hparse : Options.parse args = .ok o)
    (hhelp : o.has .help = false) (fs : FileSystem) (today : Date) :
    run fs today args = runOptions fs today o := by
  rw [run, hparse]
  simp [hhelp]

/-- **A dry run foretells the run.**  It leaves the files alone and the session as the run does, and
its answer is that of the run: the same error, the same news that nothing changes, or the news that
the log changes, on which the run writes the filled template or fails in writing.

So of two runs with the same settings, one of them a check and the other plain, the check says that
the log is out of date exactly if the plain run comes to write.  All that the plain run does then is
to write; otherwise the two are alike. -/
theorem dry_run_foretells (fs : FileSystem) :
    (∀ (r : Registry) (builtin : Text) (template : Option Path) (out : Path) (s : Session)
        (date : Date),
      let dry := writeLog fs r builtin template out s true date
      let real := writeLog fs r builtin template out s false date
      dry.files = fs ∧ real.session = dry.session ∧
        match dry.outcome with
        | .error e => real.outcome = .error e ∧ real.files = fs
        | .ok false => real.outcome = .ok false ∧ real.files = fs
        | .ok true =>
          (∃ text, loadTemplate fs builtin template = .ok text ∧ real.outcome = .ok true ∧
            real.files.readBytes out = .ok (Utf8.encode (compose r s date text).1)) ∨
          ∃ e, real.outcome = .error (.write out e) ∧ real.files = fs) ∧
    ∀ (today : Date) (args args' : List Text) (o o' : Options),
      Options.parse args = .ok o → Options.parse args' = .ok o' →
      (∀ setting, o'.value? setting = o.value? setting) →
      o.has .help = false → o.has .dryRun = false → o.has .check = false →
      o'.has .help = false → o'.has .check = true →
      let plain := run fs today args
      let check := run fs today args'
      (check.1.ReportsOutOfDate ↔ ∃ out text, ComesToWrite fs today o out text) ∧
        (∀ out text, ComesToWrite fs today o out text →
          check = (.ended (.outOfDate out), fs) ∧
          plain = match fs.writeText out text with
            | .ok after => (.ended (.documented out), after)
            | .error e => (.failed { error := .write out e }, fs)) ∧
        ((¬ ∃ out text, ComesToWrite fs today o out text) → check = plain ∧ check.2 = fs) := by
  refine ⟨writeLog_foretold fs, ?_⟩
  intro today args args' o o' hparse hparse' hvalues hhelp hdry hcheck hhelp' hcheck' plain check
  have hplain : plain = runOptions fs today o := run_eq_runOptions hparse hhelp fs today
  have hcheckRun : check = runOptions fs today o' := run_eq_runOptions hparse' hhelp' fs today
  have hplan : plan fs today o' = plan fs today o := plan_congr hvalues
  have hsame : ∀ out text,
      ComesToWrite fs today o' out text ↔ ComesToWrite fs today o out text := by
    intro out text
    rw [ComesToWrite, ComesToWrite, hplan]
  rw [hplain, hcheckRun]
  refine ⟨?_, ?_, ?_⟩
  · rw [reportsOutOfDate_iff hcheck']
    simp only [hsame]
  · intro out text hwrite
    exact ⟨check_of_comesToWrite ((hsame out text).mpr hwrite) hcheck',
      runOptions_of_comesToWrite hwrite hdry hcheck⟩
  · intro hnothing
    have hnothing' : ¬ ∃ out text, ComesToWrite fs today o' out text := by simpa only [hsame]
    rw [runOptions_of_nothing_to_write hnothing, runOptions_of_nothing_to_write hnothing', hplan]
    refine ⟨rfl, ?_⟩
    cases plan fs today o <;> rfl

/-- A first run comes to write its log, and a check in its place says so. -/
theorem dry_run_foretells_caveat :
    let fs := soleSource "# Caveat: rates\n".toList
    Options.parse [] = .ok {} ∧ Options.parse ["--check".toList] = .ok { flags := [.check] } ∧
      (∃ text, ComesToWrite fs (firstOf 0) {} defaultLog text) ∧
      (run fs (firstOf 0) ["--check".toList]).1.ReportsOutOfDate := by
  intro fs
  have hfresh : Fresh fs _ := fresh_soleSource (by decide)
  have hrun := hfresh.run_nil (firstOf 0)
  obtain ⟨hreport, hwrites, hnothing⟩ := (dry_run_foretells fs).2 (firstOf 0) [] ["--check".toList]
    {} { flags := [.check] } parse_nil parse_check (fun _ => rfl) rfl rfl rfl rfl rfl
  -- The run leaves a log where there was none.
  have hcomes : ∃ out text, ComesToWrite fs (firstOf 0) {} out text := by
    by_contra hnone
    obtain ⟨hsame, hfiles⟩ := hnothing hnone
    rw [hsame, hrun] at hfiles
    exact hfresh.withLog_ne _ hfiles
  refine ⟨parse_nil, parse_check, ?_, hreport.mpr hcomes⟩
  obtain ⟨out, text, hwrite⟩ := hcomes
  have hout := (hwrites out text hwrite).2
  rw [hrun] at hout
  split at hout
  · obtain rfl := Ending.documented.inj (Outcome.ended.inj (Prod.mk.inj hout).1)
    exact ⟨text, hwrite⟩
  · simp at hout

end Command

end AnnotationLog
