/-
What stays true of a log whatever is asked of it.

A log is asked for one thing after another: to take a kind, to search, to be
written.  Each request may be refused, and each may come with files that have
changed since the last.  What one request does is said once, by `Grows`: kinds and
findings are only ever put behind those that are there, and the kinds stay fit to
be registered.  A history of requests is then a chain of such steps.
-/
import AnnotationLog.Proofs.Annotation.OnePass
import AnnotationLog.Proofs.Log.TodoList
import AnnotationLog.Proofs.Log.Write
import AnnotationLog.Proofs.Registry
import Mathlib.Algebra.Ring.Nat

namespace AnnotationLog

/-- Writing a log leaves the session as it is or finalises it. -/
theorem session_of_writeLog (fs : FileSystem) (r : Registry) (builtin : Text)
    (template : Option Path) (out : Path) (s : Session) (dryRun : Bool) (date : Date) :
    let session := (writeLog fs r builtin template out s dryRun date).session
    session = s ∨ session = s.finalize r := by
  rw [writeLog_eq_carryOut]
  cases loadTemplate fs builtin template with
  | error e => exact Or.inl rfl
  | ok text => exact Or.inr rfl

/-! ### One request -/

/-- What can be asked of a log, with the files there are at that moment. -/
inductive Request where
  | addKind (k : Kind)
  | addBuiltins
  | setMaxBytes (limit : Nat)
  | find (fs : FileSystem) (p : Path) (extension : Text)
  | write (fs : FileSystem) (template : Option Path) (dryRun : Bool) (date : Date)

/-- What a log answers. -/
inductive Reply where
  | done
  | searched (stats : SearchStats)
  | written (changed : Bool)
  | refused (e : LogError)
  deriving DecidableEq

/-- Whether a request is for a search. -/
def Request.isFind : Request → Bool
  | .find _ _ _ => true
  | _ => false

/-- How many findings a reply reports. -/
def Reply.found : Reply → Nat
  | .searched stats => stats.matched
  | _ => 0

namespace Log

/-- Does what is asked.  A log that refuses is kept as far as it got. -/
def perform (log : Log) : Request → Log × Reply
  | .addKind k =>
    match log.addKind k with
    | .ok next => (next, .done)
    | .error e => (log, .refused e)
  | .addBuiltins =>
    match log.addBuiltins with
    | (next, .ok ()) => (next, .done)
    | (next, .error e) => (next, .refused e)
  | .setMaxBytes limit => (log.setMaxBytes limit, .done)
  | .find fs p extension =>
    match log.find fs p extension with
    | .ok (next, stats) => (next, .searched stats)
    | .error e => (log, .refused e)
  | .write fs template dryRun date =>
    match log.write fs template dryRun date with
    | (next, _, .ok changed) => (next, .written changed)
    | (next, _, .error e) => (next, .refused e)

/-- Does what is asked, one request after another. -/
def performAll (log : Log) : List Request → Log × List Reply
  | [] => (log, [])
  | q :: qs =>
    let (next, reply) := log.perform q
    let (last, replies) := next.performAll qs
    (last, reply :: replies)

/-- The kinds stay fit, kinds and findings are put behind those that are there, and there are
`n` findings more. -/
structure Grows (n : Nat) (log next : Log) : Prop where
  fit : log.registry.Fit → next.registry.Fit
  kinds : log.registry.kinds <+: next.registry.kinds
  matched : ∀ i, log.session.matched i <+: next.session.matched i
  total : next.session.total = log.session.total + n

namespace Grows

variable {n m : Nat} {a b c : Log}

theorem refl (log : Log) : Grows 0 log log where
  fit := id
  kinds := List.prefix_rfl
  matched _ := List.prefix_rfl
  total := rfl

theorem trans (hab : Grows n a b) (hbc : Grows m b c) : Grows (n + m) a c where
  fit h := hbc.fit (hab.fit h)
  kinds := hab.kinds.trans hbc.kinds
  matched i := (hab.matched i).trans (hbc.matched i)
  total := by rw [hbc.total, hab.total, Nat.add_assoc]

/-- A step that leaves the kinds alone and finds nothing. -/
theorem of_same (hregistry : b.registry = a.registry)
    (hmatched : ∀ i, b.session.matched i = a.session.matched i)
    (htotal : b.session.total = a.session.total) : Grows 0 a b where
  fit h := hregistry ▸ h
  kinds := hregistry ▸ List.prefix_rfl
  matched i := hmatched i ▸ List.prefix_rfl
  total := htotal

end Grows

variable {log next : Log}

/-- A kind that is added comes last, and nothing is found for it yet. -/
theorem grows_addKind {k : Kind} (h : log.addKind k = .ok next) :
    Grows 0 log next ∧ next.registry.kinds = log.registry.kinds ++ [k] ∧
      ∀ i, next.session.matched i = log.session.matched i := by
  unfold addKind at h
  split at h
  · rename_i r hregister
    obtain rfl := Except.ok.inj h
    have hkinds : r.kinds = log.registry.kinds ++ [k] := by
      rw [(Registry.register_eq_ok_iff.mp hregister).2.2]
    have hmatched := log.session.matched_sync r
    refine ⟨⟨fun hfit => hfit.register hregister, ?_, ?_, ?_⟩, hkinds, hmatched⟩
    · exact hkinds ▸ List.prefix_append _ _
    · exact fun i => hmatched i ▸ List.prefix_rfl
    · exact Session.total_grow _ _
  · simp at h

theorem grows_addKinds (log : Log) (ks : List Kind) :
    Grows 0 log (log.addKinds ks).1 ∧
      ∀ i, (log.addKinds ks).1.session.matched i = log.session.matched i := by
  induction ks generalizing log with
  | nil => exact ⟨Grows.refl log, fun _ => rfl⟩
  | cons k ks ih =>
      unfold addKinds
      split
      · rename_i next hadd
        obtain ⟨hgrows, -, hmatched⟩ := grows_addKind hadd
        obtain ⟨hrest, hmatched'⟩ := ih next
        exact ⟨hgrows.trans hrest, fun i => (hmatched' i).trans (hmatched i)⟩
      · exact ⟨Grows.refl log, fun _ => rfl⟩

/-- A search leaves the kinds alone and adds as many findings as it reports. -/
theorem grows_find {fs : FileSystem} {p : Path} {extension : Text} {stats : SearchStats}
    (h : log.find fs p extension = .ok (next, stats)) :
    Grows stats.matched log next ∧ next.registry = log.registry := by
  unfold find at h
  split at h
  · rename_i session stats' hsearch
    simp only [Except.ok.injEq, Prod.mk.injEq] at h
    obtain ⟨rfl, rfl⟩ := h
    obtain ⟨root, entry, -, -, hsearched⟩ := search_eq_ok hsearch
    refine ⟨⟨id, List.prefix_rfl, ?_, ?_⟩, rfl⟩
    · intro i
      rw [show session = _ from hsearched.session, Session.matched_scanAll_at,
        Session.matched_sync]
      exact List.prefix_append _ _
    · have htotal := hsearched.total
      have hsync : (log.session.sync log.registry).total = log.session.total :=
        Session.total_grow _ _
      dsimp only at htotal ⊢
      omega
  · simp at h

theorem grows_write (log : Log) (fs : FileSystem) (template : Option Path) (dryRun : Bool)
    (date : Date) :
    Grows 0 log (log.write fs template dryRun date).1 ∧
      ∀ i, (log.write fs template dryRun date).1.session.matched i = log.session.matched i := by
  unfold write
  dsimp only
  rcases session_of_writeLog fs log.registry log.type.template template log.outfile log.session
    dryRun date with hsame | hfinal
  · rw [hsame]
    exact ⟨.of_same rfl (fun _ => rfl) rfl, fun _ => rfl⟩
  · rw [hfinal]
    have hmatched := log.session.matched_finalize log.registry
    exact ⟨.of_same rfl hmatched (Session.total_finalize _ _), hmatched⟩

/-- **One request.**  Only a search finds anything. -/
theorem grows_perform (log : Log) (q : Request) :
    Grows (log.perform q).2.found log (log.perform q).1 ∧
      (q.isFind = false → ∀ i, (log.perform q).1.session.matched i = log.session.matched i) := by
  cases q with
  | addKind k =>
      unfold perform
      dsimp only
      split
      · rename_i next hadd
        obtain ⟨hgrows, -, hmatched⟩ := grows_addKind hadd
        exact ⟨hgrows, fun _ => hmatched⟩
      · exact ⟨Grows.refl log, fun _ _ => rfl⟩
  | addBuiltins =>
      obtain ⟨hgrows, hmatched⟩ := grows_addKinds log (log.type.kinds.map BuiltinKind.kind)
      unfold perform
      dsimp only
      split
      · rename_i next hadd
        rw [← addBuiltins, hadd] at hgrows hmatched
        exact ⟨hgrows, fun _ => hmatched⟩
      · rename_i next e hadd
        rw [← addBuiltins, hadd] at hgrows hmatched
        exact ⟨hgrows, fun _ => hmatched⟩
  | setMaxBytes limit => exact ⟨.of_same rfl (fun _ => rfl) rfl, fun _ _ => rfl⟩
  | find fs p extension =>
      unfold perform
      dsimp only
      split
      · rename_i next stats hfind
        exact ⟨(grows_find hfind).1, by simp [Request.isFind]⟩
      · exact ⟨Grows.refl log, fun _ _ => rfl⟩
  | write fs template dryRun date =>
      obtain ⟨hgrows, hmatched⟩ := grows_write log fs template dryRun date
      unfold perform
      dsimp only
      split
      · rename_i next files changed hwrite
        rw [hwrite] at hgrows hmatched
        exact ⟨hgrows, fun _ => hmatched⟩
      · rename_i next files e hwrite
        rw [hwrite] at hgrows hmatched
        exact ⟨hgrows, fun _ => hmatched⟩

/-- A kind is added if it is fit and its marker is free, and refused otherwise. -/
theorem perform_addKind (log : Log) (k : Kind) :
    let (next, reply) := log.perform (.addKind k)
    (k.Fit ∧ k.marker ∉ log.registry.markers) ∧ reply = .done ∧
        next.registry.kinds = log.registry.kinds ++ [k] ∨
      ¬ (k.Fit ∧ k.marker ∉ log.registry.markers) ∧ (∃ e, reply = .refused e) ∧ next = log := by
  unfold perform addKind
  dsimp only
  cases hregister : log.registry.register k with
  | ok r =>
      obtain ⟨hfit, hfree, rfl⟩ := Registry.register_eq_ok_iff.mp hregister
      exact Or.inl ⟨⟨hfit, hfree⟩, rfl, rfl⟩
  | error e =>
      refine Or.inr ⟨?_, ⟨e, rfl⟩, rfl⟩
      intro hok
      rw [Registry.register_eq_ok_iff.mpr ⟨hok.1, hok.2, rfl⟩] at hregister
      simp at hregister

/-- A search that is refused leaves the log as it was. -/
theorem perform_find (log : Log) (fs : FileSystem) (p : Path) (extension : Text) :
    let (next, reply) := log.perform (.find fs p extension)
    (∃ stats, reply = .searched stats ∧ next.registry = log.registry ∧
        next.session.total = log.session.total + stats.matched) ∨
      (∃ e, reply = .refused e) ∧ next = log := by
  unfold perform
  dsimp only
  cases hfind : log.find fs p extension with
  | ok found =>
      obtain ⟨hgrows, hregistry⟩ := grows_find hfind
      exact Or.inl ⟨found.2, rfl, hregistry, hgrows.total⟩
  | error e => exact Or.inr ⟨⟨e, rfl⟩, rfl⟩

/-! ### A history of requests -/

theorem grows_performAll (log : Log) (qs : List Request) :
    Grows ((log.performAll qs).2.map Reply.found).sum log (log.performAll qs).1 := by
  induction qs generalizing log with
  | nil => exact Grows.refl log
  | cons q qs ih => exact (grows_perform log q).1.trans (ih (log.perform q).1)

theorem empty_of_create {fs : FileSystem} {typeName : Text} {outfile : Path} {fresh : Log}
    (h : Log.create fs typeName outfile = .ok fresh) :
    fresh.registry = {} ∧ fresh.session = {} := by
  unfold create at h
  split at h
  · simp at h
  · split at h
    · simp at h
    · obtain rfl := Except.ok.inj h
      exact ⟨rfl, rfl⟩

/-- **Whatever was asked of a log before**, its kinds are fit and their markers differ, it holds as
many findings as its searches reported, and the next request puts findings behind those that are
there, which only a search does.  A kind that is refused is not registered, and a search that is
refused changes nothing. -/
theorem history_invariants {fs : FileSystem} {typeName : Text} {outfile : Path} {fresh : Log}
    (hfresh : Log.create fs typeName outfile = .ok fresh) (qs : List Request) :
    let (log, replies) := fresh.performAll qs
    (∀ k ∈ log.registry.kinds, Text.isBlankText k.name = false ∧
        Text.isBlankText k.marker = false ∧ k.grammars ≠ []) ∧
      log.registry.markers.Nodup ∧
      log.session.total = (replies.map Reply.found).sum ∧
      (∀ q i, ∃ new, (log.perform q).1.session.matched i = log.session.matched i ++ new ∧
        (q.isFind = false → new = [])) ∧
      (∀ k, let (next, reply) := log.perform (.addKind k)
        (k.Fit ∧ k.marker ∉ log.registry.markers) ∧ reply = .done ∧
            next.registry.kinds = log.registry.kinds ++ [k] ∨
          ¬ (k.Fit ∧ k.marker ∉ log.registry.markers) ∧ (∃ e, reply = .refused e) ∧
            next = log) ∧
      ∀ fs p extension, let (next, reply) := log.perform (.find fs p extension)
        (∃ stats, reply = .searched stats ∧ next.registry = log.registry ∧
            next.session.total = log.session.total + stats.matched) ∨
          (∃ e, reply = .refused e) ∧ next = log := by
  -- A new log is fit and has found nothing, and the history only lets it grow.
  obtain ⟨hregistry, hsession⟩ := empty_of_create hfresh
  have hgrows := grows_performAll fresh qs
  have hfit := hgrows.fit (hregistry ▸ Registry.fit_empty)
  have htotal := hgrows.total
  rw [hsession] at htotal
  refine ⟨?_, hfit.markers, ?_, ?_, perform_addKind _, perform_find _⟩
  · intro k hk
    exact ⟨(hfit.kinds k hk).named, (hfit.kinds k hk).marked, (hfit.kinds k hk).readable⟩
  · rw [htotal]
    exact Nat.zero_add _
  · intro q i
    obtain ⟨hstep, hsame⟩ := grows_perform (fresh.performAll qs).1 q
    obtain ⟨new, hnew⟩ := hstep.matched i
    refine ⟨new, hnew.symm, fun hfind => ?_⟩
    rw [hsame hfind i] at hnew
    exact List.self_eq_append_right.mp hnew.symm

/-! ### A todo list that is asked too early and too often -/

/-- Searching a directory with one source counts its todos. -/
theorem perform_find_todoLog (session : Session) {source : Text}
    (hsource : sourceText? defaultMaxBytes (Utf8.encode source) = some source) :
    ∃ found, (todoLog session).perform
        (.find (onlyFile "a.py".toList (Utf8.encode source)) ['.'] "py".toList) =
      (todoLog found,
        .searched { scanned := 1, matched := (BuiltinKind.todo.kind.find source).length }) := by
  let r := Registry.forLogType .todoList
  refine ⟨(session.sync r).scan r "a.py".toList source, ?_⟩
  simp only [perform, find, todoLog, Option.getD_none, search_onlyFile hsource]
  rfl

/-- The first search comes too early, and the kind is added once too often. -/
theorem history_invariants_todo :
    let source := "# Todo: a\n\n# Todo: b\n".toList
    let fs := onlyFile "a.py".toList (Utf8.encode source)
    let find := Request.find fs ['.'] "py".toList
    ∃ fresh last, Log.create fs LogType.todoList.name LogType.todoList.defaultOutfile = .ok fresh ∧
      fresh.performAll [find, .addBuiltins, find, .addBuiltins, find] =
        (last, [.refused .noKinds, .done, .searched { scanned := 1, matched := 2 },
          .refused (.duplicateMarker BuiltinKind.todo.kind.marker),
          .searched { scanned := 1, matched := 2 }]) ∧
      last.session.total = 4 ∧ last.registry.markers.Nodup := by
  intro source fs find
  have hcreate := create_todoList fs
  have hfound : (BuiltinKind.todo.kind.find source).length = 2 := by
    rw [Kind.find, matchGrammars_eq_map_readOnce (apostropheFree_builtin .todo)]
    decide +kernel
  have hsource : sourceText? defaultMaxBytes (Utf8.encode source) = some source :=
    sourceText?_encode (by decide) (by decide)
  have hlate : ∀ s, (todoLog s).perform .addBuiltins =
      (todoLog s, .refused (.duplicateMarker BuiltinKind.todo.kind.marker)) := fun s => rfl
  obtain ⟨once, honce⟩ := perform_find_todoLog (Session.forRegistry (.forLogType .todoList)) hsource
  obtain ⟨twice, htwice⟩ := perform_find_todoLog once hsource
  rw [hfound] at honce htwice
  have hall : performAll { type := .todoList, outfile := LogType.todoList.defaultOutfile }
      [find, .addBuiltins, find, .addBuiltins, find] =
        (todoLog twice, [.refused .noKinds, .done, .searched { scanned := 1, matched := 2 },
          .refused (.duplicateMarker BuiltinKind.todo.kind.marker),
          .searched { scanned := 1, matched := 2 }]) := by
    have hearly : perform { type := .todoList, outfile := LogType.todoList.defaultOutfile } find =
      ({ type := .todoList, outfile := LogType.todoList.defaultOutfile }, .refused .noKinds) := rfl
    have hadd : perform { type := .todoList, outfile := LogType.todoList.defaultOutfile }
        .addBuiltins = (todoLog (Session.forRegistry (.forLogType .todoList)), .done) := rfl
    simp only [performAll, hearly, hadd, find, fs, honce, hlate, htwice]
  have hinvariants := history_invariants hcreate [find, .addBuiltins, find, .addBuiltins, find]
  rw [hall] at hinvariants
  exact ⟨_, _, hcreate, hall, hinvariants.2.2.1, hinvariants.2.1⟩

end Log

end AnnotationLog
