/-
What writing a log does.

Everything is decided before anything is written: the template is filled and the log on
disk is compared with it.  `pendingText` is that decision, and it is not told whether
the run is dry.  Writing a log is the decision carried out, and nothing else depends on
it: the session is as filling the template leaves it.
-/
import AnnotationLog.Log.Write
import Mathlib.Tactic.Common

namespace AnnotationLog

/-- The text that is to be written to the path of a log, if any is. -/
def pendingText (fs : FileSystem) (r : Registry) (builtin : Text) (template : Option Path)
    (out : Path) (s : Session) (date : Date) : Except LogError (Option Text) :=
  match loadTemplate fs builtin template with
  | .error e => .error e
  | .ok text =>
    match hasChanged fs out (compose r s date text).1 with
    | .error e => .error e
    | .ok changed => .ok (if changed then some (compose r s date text).1 else none)

/-- Writes the text that is pending for a path, unless the run is dry. -/
def carryOut (fs : FileSystem) (out : Path) (dryRun : Bool) :
    Except LogError (Option Text) → FileSystem × Except LogError Bool
  | .error e => (fs, .error e)
  | .ok none => (fs, .ok false)
  | .ok (some text) =>
    if dryRun then (fs, .ok true)
    else
      match fs.writeText out text with
      | .ok after => (after, .ok true)
      | .error e => (fs, .error (.write out e))

section

variable (fs : FileSystem) (r : Registry) (builtin : Text) (template : Option Path) (out : Path)
  (s : Session) (dryRun : Bool) (date : Date)

/-- **Writing a log is deciding what to write and carrying it out.** -/
theorem writeLog_eq_carryOut :
    writeLog fs r builtin template out s dryRun date =
      let (files, outcome) := carryOut fs out dryRun
        (pendingText fs r builtin template out s date)
      { files, outcome
        session := match loadTemplate fs builtin template with
          | .error _ => s
          | .ok _ => s.finalize r } := by
  unfold writeLog pendingText
  cases loadTemplate fs builtin template with
  | error e => rfl
  | ok text =>
      dsimp only
      unfold saveLog
      cases hasChanged fs out (compose r s date text).1 with
      | error e => rfl
      | ok changed =>
          cases changed with
          | false => rfl
          | true =>
              cases dryRun with
              | true => rfl
              | false =>
                  simp only [carryOut, Bool.false_eq_true, if_true, if_false]
                  cases fs.writeText out (compose r s date text).1 <;> rfl

end

variable {fs : FileSystem} {r : Registry} {builtin : Text} {template : Option Path} {out : Path}
  {s : Session} {date : Date}

/-- The only text that is ever pending is the filled template. -/
theorem eq_compose_of_pendingText {content : Text}
    (h : pendingText fs r builtin template out s date = .ok (some content)) :
    ∃ text, loadTemplate fs builtin template = .ok text ∧ content = (compose r s date text).1 := by
  unfold pendingText at h
  cases hload : loadTemplate fs builtin template with
  | error e => simp [hload] at h
  | ok text =>
      refine ⟨text, rfl, ?_⟩
      rw [hload] at h
      dsimp only at h
      cases hchanged : hasChanged fs out (compose r s date text).1 with
      | error e => simp [hchanged] at h
      | ok changed => cases changed <;> simp_all

theorem files_of_carryOut (fs : FileSystem) (out : Path) (dryRun : Bool)
    (pending : Except LogError (Option Text)) :
    let result := carryOut fs out dryRun pending
    if result.2 = .ok true ∧ dryRun = false then
      ∃ text, pending = .ok (some text) ∧ fs.writeText out text = .ok result.1
    else result.1 = fs := by
  cases pending with
  | error e => simp [carryOut]
  | ok text =>
      cases text with
      | none => simp [carryOut]
      | some text =>
          cases dryRun with
          | true => simp [carryOut]
          | false => cases hwrite : fs.writeText out text <;> simp [carryOut, hwrite]

end AnnotationLog
