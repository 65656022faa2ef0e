/-
Log types: the logs that can be asked for by name.

A log type fixes the built-in kinds of a log, the file it goes to unless another is named, its
template, and the reminder that a run leaves when nothing changed.
-/
import AnnotationLog.Kind.Builtin

namespace AnnotationLog

/-- The marker of the date in a template. -/
def dateMarker : Text := "{ current_date }".toList

/-- A type of log. -/
inductive LogType where
  | assumptionsCaveats
  | todoList
  | technicalDebt
  deriving DecidableEq, Repr

namespace LogType

/-- All log types, in the order in which they are offered. -/
def all : List LogType :=
  [assumptionsCaveats, todoList, technicalDebt]

/-- The name of a log type. -/
def name : LogType → Text
  | assumptionsCaveats => "assumptions_caveats_log".toList
  | todoList => "todo_list".toList
  | technicalDebt => "technical_debt_log".toList

/-- The log type with a name. -/
def ofName (t : Text) : Except LogError LogType :=
  match all.find? fun type => type.name == t with
  | some type => .ok type
  | none => .error (.unknownLogType t (all.map name))

/-- The file that a log goes to unless another is named. -/
def defaultOutfile (type : LogType) : Path :=
  type.name ++ ".md".toList

/-- The built-in kinds of a log, in the order in which they are registered. -/
def kinds : LogType → List BuiltinKind
  | assumptionsCaveats => [.assumption, .caveat]
  | todoList => [.todo]
  | technicalDebt => [.debt]

/-- The front of a template: the title of the log and the line with the date. -/
def templateHead (title : Text) : List Text :=
  ["# ".toList ++ title, [],
   "This document is automatically generated from in-code comments.".toList, [],
   "Last updated: ".toList ++ dateMarker, []]

/-- The built-in template. -/
def template : LogType → Text
  | assumptionsCaveats =>
    Text.unlines (templateHead "Assumptions and Caveats Log".toList ++
      ["## Assumptions".toList, [], BuiltinKind.assumption.marker, [],
       "## Caveats".toList, [], BuiltinKind.caveat.marker])
  | todoList => Text.unlines (templateHead "Todo List".toList ++ [BuiltinKind.todo.marker])
  | technicalDebt =>
    Text.unlines (templateHead "Technical Debt Log".toList ++ [BuiltinKind.debt.marker])

/-- The reminder when a run changes nothing. -/
def nudge : LogType → Text
  | assumptionsCaveats => "Nudge: Have you updated your assumptions and caveats?".toList
  | todoList => "Nudge: Have you updated your todos?".toList
  | technicalDebt => "Nudge: Have you recorded your technical debt?".toList

end LogType

end AnnotationLog
