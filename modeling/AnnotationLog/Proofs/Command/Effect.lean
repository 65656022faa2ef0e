/-
What a run does to the files.

A run has many ways to fail and three ways to end without writing.  In all of them
the files stay as they were, because nothing before the last step writes and the
last step writes a whole file or nothing.  A run that says it has documented the
items has made exactly one write: the file that the output path leads to holds the
template with what this run has found.

What was found is followed from step to step: a log that is ready to search has
the kinds of its type and then those of the configuration, and no findings yet.
-/
import AnnotationLog.Proofs.Command.FirstRun
import AnnotationLog.Proofs.Log.History

namespace AnnotationLog

/-! ### Writing -/

/-- **Writing a log puts the filled template on disk, or does nothing to the files.**  It does the
former exactly if it says so and the run is not dry. -/
theorem files_of_writeLog (fs : FileSystem) (r : Registry) (builtin : Text)
    (template : Option Path) (out : Path) (s : Session) (dryRun : Bool) (date : Date) :
    let result := writeLog fs r builtin template out s dryRun date
    if result.outcome = .ok true ∧ dryRun = false then
      ∃ text, loadTemplate fs builtin template = .ok text ∧
        fs.writeText out (compose r s date text).1 = .ok result.files
    else result.files = fs := by
  have hfiles := files_of_carryOut fs out dryRun (pendingText fs r builtin template out s date)
  rw [writeLog_eq_carryOut]
  dsimp only at hfiles ⊢
  split
  next hwritten =>
    rw [if_pos hwritten] at hfiles
    obtain ⟨content, hpending, hwrite⟩ := hfiles
    obtain ⟨text, hload, rfl⟩ := eq_compose_of_pendingText hpending
    exact ⟨text, hload, hwrite⟩
  next hkept => rwa [if_neg hkept] at hfiles

namespace Command

/-! ### Getting ready -/

/-- A log with some kinds and a size limit that has found nothing yet. -/
structure Ready (s : Settings) (kinds : List Kind) (limit : Option Nat) (log : Log) : Prop where
  type : log.type = s.type
  outfile : log.outfile = s.outfile
  kinds : log.registry.kinds = kinds
  matched : ∀ i, log.session.matched i = []
  maxBytes : log.maxBytes = limit

theorem ofName_name (type : LogType) : LogType.ofName type.name = .ok type := by
  cases type <;> rfl

theorem ready_create {fs : FileSystem} {s : Settings} {log : Log}
    (h : Log.create fs s.type.name s.outfile = .ok log) : Ready s [] none log := by
  unfold Log.create at h
  rw [ofName_name] at h
  dsimp only at h
  split at h
  · simp at h
  · obtain rfl := Except.ok.inj h
    exact ⟨rfl, rfl, rfl, fun _ => rfl, rfl⟩

section

variable {s : Settings} {kinds : List Kind} {limit : Option Nat} {log next : Log}

theorem Ready.addKind (h : Ready s kinds limit log) {k : Kind} (hadd : log.addKind k = .ok next) :
    Ready s (kinds ++ [k]) limit next := by
  obtain ⟨-, hkinds, hmatched⟩ := Log.grows_addKind hadd
  unfold Log.addKind at hadd
  split at hadd
  · obtain rfl := Except.ok.inj hadd
    refine ⟨h.type, h.outfile, ?_, fun i => (hmatched i).trans (h.matched i), h.maxBytes⟩
    rw [hkinds, h.kinds]
  · simp at hadd

theorem Ready.addKinds (h : Ready s kinds limit log) {ks : List Kind}
    (hadd : log.addKinds ks = (next, .ok ())) : Ready s (kinds ++ ks) limit next := by
  induction ks generalizing log kinds with
  | nil =>
      obtain ⟨rfl, -⟩ := Prod.mk.inj hadd
      rw [List.append_nil]
      exact h
  | cons k ks ih =>
      unfold Log.addKinds at hadd
      split at hadd
      · rename_i more hmore
        have hrest := ih (h.addKind hmore) hadd
        rwa [List.append_assoc] at hrest
      · simp at hadd

theorem Ready.addCustomKinds (h : Ready s kinds limit log) {cs : List CustomKind}
    (hadd : addCustomKinds log cs = .ok next) :
    ∃ built, List.Forall₂ (fun c k => CustomKind.build c = .ok k) cs built ∧
      Ready s (kinds ++ built) limit next := by
  induction cs generalizing log kinds with
  | nil =>
      obtain rfl := Except.ok.inj hadd
      refine ⟨[], .nil, ?_⟩
      rw [List.append_nil]
      exact h
  | cons c cs ih =>
      unfold Command.addCustomKinds at hadd
      split at hadd
      · simp at hadd
      · rename_i k hbuild
        split at hadd
        · simp at hadd
        · rename_i more hmore
          obtain ⟨built, hbuilt, hrest⟩ := ih (h.addKind hmore) hadd
          refine ⟨k :: built, .cons hbuild hbuilt, ?_⟩
          rwa [List.append_assoc] at hrest

end

theorem ready_prepare {fs : FileSystem} {s : Settings} {customs : List CustomKind} {log : Log}
    (h : prepare fs s customs = .ok log) :
    ∃ built, List.Forall₂ (fun c k => CustomKind.build c = .ok k) customs built ∧
      Ready s (s.type.kinds.map BuiltinKind.kind ++ built) s.maxBytes log := by
  unfold prepare at h
  split at h
  · simp at h
  · rename_i created hcreate
    have hcreated := ready_create hcreate
    split at h
    · simp at h
    · rename_i standard hadd
      rw [Log.addBuiltins, hcreated.type] at hadd
      split at h
      · simp at h
      · rename_i custom hcustom
        obtain ⟨built, hbuilt, hready⟩ := (hcreated.addKinds hadd).addCustomKinds hcustom
        refine ⟨built, hbuilt, ?_⟩
        rw [List.nil_append] at hready
        obtain rfl := Except.ok.inj h
        cases hlimit : s.maxBytes with
        | none => exact hready
        | some n => exact ⟨hready.type, hready.outfile, hready.kinds, hready.matched, rfl⟩

/-! ### What a run finds -/

/-- The log of a run that has searched.  It has the kinds of its type and those of the
configuration, and each has what it finds in the files at or below the search path that have the
wanted ending and can be read. -/
structure Gathered (fs : FileSystem) (s : Settings) (customs : List CustomKind) (log : Log) :
    Prop where
  type : log.type = s.type
  outfile : log.outfile = s.outfile
  kinds : ∃ built, List.Forall₂ (fun c k => CustomKind.build c = .ok k) customs built ∧
    log.registry.kinds = s.type.kinds.map BuiltinKind.kind ++ built
  found : ∃ root files, fs.canonical s.path = .ok root ∧
    (fs.root.WellNamed → IsWalk fs.root root (extensionEnding s.extension) files) ∧
    ∀ i k, log.registry.kinds[i]? = some k → log.session.matched i =
      k.findingsIn (readable root (s.maxBytes.getD defaultMaxBytes) files)

theorem gathered_of_gather {fs : FileSystem} {s : Settings} {customs : List CustomKind} {log : Log}
    (h : gather fs s customs = .ok log) : Gathered fs s customs log := by
  unfold gather at h
  split at h
  · simp at h
  · rename_i ready hprepare
    obtain ⟨built, hbuilt, hready⟩ := ready_prepare hprepare
    split at h
    · simp at h
    · rename_i next stats hfind
      obtain rfl := Except.ok.inj h
      unfold Log.find at hfind
      split at hfind
      · rename_i session stats' hsearch
        obtain ⟨rfl, -⟩ := Prod.mk.inj (Except.ok.inj hfind)
        obtain ⟨root, entry, hroot, hentry, hsearched⟩ := search_eq_ok hsearch
        refine ⟨hready.type, hready.outfile, ⟨built, hbuilt, hready.kinds⟩, root, _, hroot,
          fun hnamed => isWalk_walk hnamed hentry _, ?_⟩
        intro i k hk
        rw [show session = _ from hsearched.session, Session.matched_scanAll hk,
          Session.matched_sync, hready.matched, hready.maxBytes, List.nil_append]
      · simp at hfind

/-! ### The run -/

/-- The run says that it has documented the items. -/
def Outcome.Documents : Outcome → Prop
  | .ended e => "Log items documented in".toList <+: e.message
  | _ => False

theorem not_documents_unchanged (type : LogType) :
    ¬ (Outcome.ended (.unchanged type)).Documents := by
  show ¬ "Log items documented in".toList <+: type.nudge
  cases type <;> decide

theorem documents_documented (out : Path) : (Outcome.ended (.documented out)).Documents := by
  show _ <+: "Log items documented in ".toList ++ out ++ ['.']
  rw [List.append_assoc]
  exact List.IsPrefix.trans (by decide) (List.prefix_append _ _)

/-- A run that neither is dry nor checks says that it has documented the items exactly if it has
written the log. -/
theorem documents_ending_iff {o : Options} {s : Settings} {written : Bool}
    (hdry : o.has .dryRun = false) (hcheck : o.has .check = false) :
    (Outcome.ended (ending o s written)).Documents ↔ written = true := by
  cases written with
  | false => exact iff_of_false (not_documents_unchanged s.type) (by simp)
  | true =>
      have hending : ending o s true = .documented s.outfile := by
        simp [ending, hdry, hcheck]
      rw [hending]
      exact iff_of_true (documents_documented s.outfile) rfl

theorem settings_of_configure {fs : FileSystem} {o : Options} {config : Config} {s : Settings}
    (h : configure fs o = .ok (config, s)) : settings o config = .ok s := by
  have hload : ((do
      let config ← loadConfig fs o
      let s ← settings o config
      pure (config, s)) : Except LogError (Config × Settings)) = .ok (config, s) := by
    unfold configure at h
    split at h
    · rename_i name _
      cases hname : LogType.ofName name with
      | error e =>
          rw [hname] at h
          exact nomatch h
      | ok type =>
          rw [hname] at h
          exact h
    · exact h
  cases hconfig : loadConfig fs o with
  | error e => simp [hconfig, bind, Except.bind] at hload
  | ok loaded =>
      cases hsettings : settings o loaded with
      | error e => simp [hconfig, hsettings, bind, Except.bind] at hload
      | ok found =>
          simp only [hconfig, hsettings, bind, Except.bind, pure, Except.pure, Except.ok.injEq,
            Prod.mk.injEq] at hload
          obtain ⟨rfl, rfl⟩ := hload
          exact hsettings

theorem dryRun_of_configure {fs : FileSystem} {o : Options} {config : Config} {s : Settings}
    (h : configure fs o = .ok (config, s)) : s.dryRun = (o.has .dryRun || o.has .check) := by
  have hsettings := settings_of_configure h
  unfold settings at hsettings
  dsimp only at hsettings
  split at hsettings
  · simp at hsettings
  · obtain rfl := Except.ok.inj hsettings
    rfl

/-- **A run that comes to writing its log writes it or leaves the files alone.**  Every other run
fails and leaves them alone as well. -/
theorem runOptions_cases {fs after : FileSystem} {today : Date} {o : Options} {outcome : Outcome}
    (h : runOptions fs today o = (outcome, after)) :
    (∃ f, outcome = .failed f) ∧ after = fs ∨
      ∃ config s log written, configure fs o = .ok (config, s) ∧
        Gathered fs s config.customKinds log ∧ outcome = .ended (ending o s written) ∧
        if written = true ∧ s.dryRun = false then
          ∃ template, loadTemplate fs s.type.template s.template = .ok template ∧
            fs.writeText s.outfile (compose log.registry log.session today template).1 = .ok after
        else after = fs := by
  unfold runOptions at h
  cases hconfigure : configure fs o with
  | error e =>
      rw [hconfigure] at h
      obtain ⟨rfl, rfl⟩ := Prod.mk.inj h
      exact Or.inl ⟨⟨_, rfl⟩, rfl⟩
  | ok configured =>
      obtain ⟨config, s⟩ := configured
      simp only [hconfigure] at h
      cases hgather : gather fs s config.customKinds with
      | error f =>
          rw [hgather] at h
          obtain ⟨rfl, rfl⟩ := Prod.mk.inj h
          exact Or.inl ⟨⟨_, rfl⟩, rfl⟩
      | ok log =>
          have hgathered := gathered_of_gather hgather
          have hfiles := files_of_writeLog fs log.registry log.type.template s.template log.outfile
            log.session s.dryRun today
          simp only [hgather, Log.write] at h
          rw [hgathered.type, hgathered.outfile] at hfiles h
          generalize writeLog fs log.registry s.type.template s.template s.outfile log.session
            s.dryRun today = result at hfiles h
          obtain ⟨files, session, written⟩ := result
          cases written with
          | error e =>
              obtain ⟨rfl, rfl⟩ := Prod.mk.inj h
              exact Or.inl ⟨⟨_, rfl⟩, by simpa using hfiles⟩
          | ok written =>
              obtain ⟨rfl, rfl⟩ := Prod.mk.inj h
              exact Or.inr ⟨config, s, log, written, rfl, hgathered, rfl, by simpa using hfiles⟩

/-- **A run touches at most its log.**  The files are as before if the run fails, does not say that
it has documented the items, is dry or checks.  Otherwise they differ at most in the file that the
output path leads to, and that file is the template with the date and with what this run has
found. -/
theorem run_touches_log_only (fs : FileSystem) (today : Date) {args : List Text} {o : Options}
    (hparse : Options.parse args = .ok o) :
    let (outcome, after) := run fs today args
    ((∃ f, outcome = .failed f) ∨ ¬ outcome.Documents ∨ o.has .dryRun = true ∨
        o.has .check = true → after = fs) ∧
      (outcome.Documents → o.has .dryRun = false → o.has .check = false →
        ∃ config s log template loc, configure fs o = .ok (config, s) ∧
          Gathered fs s config.customKinds log ∧
          loadTemplate fs s.type.template s.template = .ok template ∧
          fs.writeLocation s.outfile = .ok loc ∧
          FileSystem.DifferAt loc
            (Utf8.encode (compose log.registry log.session today template).1) fs after) := by
  unfold run
  rw [hparse]
  dsimp only
  by_cases hhelp : o.has .help = true
  · rw [if_pos hhelp]
    exact ⟨fun _ => rfl, fun h => h.elim⟩
  · rw [if_neg hhelp]
    generalize hrun : runOptions fs today o = result
    obtain ⟨outcome, after⟩ := result
    rcases runOptions_cases hrun with ⟨⟨f, rfl⟩, rfl⟩ |
      ⟨config, s, log, written, hconfigure, hgathered, rfl, hwrite⟩
    · exact ⟨fun _ => rfl, fun h => h.elim⟩
    · have hdry := dryRun_of_configure hconfigure
      constructor
      · intro hquiet
        -- A run that had written would not be dry, and so it would have said so.
        rwa [if_neg] at hwrite
        rintro ⟨hwritten, hwet⟩
        rw [hwet, eq_comm, Bool.or_eq_false_iff] at hdry
        have hdocuments := (documents_ending_iff (s := s) hdry.1 hdry.2).mpr hwritten
        simp [hdocuments, hdry] at hquiet
      · intro hdocuments hnotdry hnotcheck
        rw [hnotdry, hnotcheck] at hdry
        rw [if_pos ⟨(documents_ending_iff hnotdry hnotcheck).mp hdocuments, hdry⟩] at hwrite
        obtain ⟨template, htemplate, hwritten⟩ := hwrite
        obtain ⟨loc, hloc, hdiffer⟩ := FileSystem.differAt_of_writeText hwritten
        exact ⟨config, s, log, template, loc, hconfigure, hgathered, htemplate, hloc, hdiffer⟩

/-- A first run writes the log and nothing else, and a check behind it writes nothing. -/
theorem run_touches_log_only_caveat :
    let fs := soleSource "# Caveat: rates\n".toList
    let after := (run fs (firstOf 0) []).2
    Options.parse [] = .ok {} ∧ (run fs (firstOf 0) []).1.Documents ∧
      (∃ loc text, fs.writeLocation defaultLog = .ok loc ∧
        FileSystem.DifferAt loc (Utf8.encode text) fs after) ∧
      Options.parse ["--check".toList] = .ok { flags := [.check] } ∧
      (run after (firstOf 5) ["--check".toList]).2 = after := by
  intro fs after
  have hfresh : Fresh fs _ := fresh_soleSource (by decide)
  have hrun := hfresh.run_nil (firstOf 0)
  have hdocuments : (run fs (firstOf 0) []).1.Documents := by
    rw [hrun]
    exact documents_documented defaultLog
  obtain ⟨config, s, log, template, loc, hconfigure, -, -, hloc, hdiffer⟩ :=
    (run_touches_log_only fs (firstOf 0) parse_nil).2 hdocuments rfl rfl
  rw [configure_default hfresh.names hfresh.here hfresh.noConfig rfl] at hconfigure
  obtain ⟨-, rfl⟩ := Prod.mk.inj (Except.ok.inj hconfigure)
  exact ⟨parse_nil, hdocuments, ⟨loc, _, hloc, hdiffer⟩, parse_check,
    (run_touches_log_only after (firstOf 5) parse_check).1 (Or.inr (Or.inr (Or.inr rfl)))⟩

end Command

end AnnotationLog
