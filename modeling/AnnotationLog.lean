import AnnotationLog.Files.Setup
import AnnotationLog.Main
import AnnotationLog.Proofs.Annotation.Block
import AnnotationLog.Proofs.Annotation.Label
import AnnotationLog.Proofs.Annotation.Header
import AnnotationLog.Proofs.Annotation.Scan
import AnnotationLog.Proofs.Annotation.OnePass
import AnnotationLog.Proofs.Text.Line
import AnnotationLog.Proofs.Annotation.Written
import AnnotationLog.Proofs.Template.Substitute
import AnnotationLog.Proofs.Date
import AnnotationLog.Proofs.Kind.Replacement
import AnnotationLog.Proofs.Session
import AnnotationLog.Proofs.Template.Verbatim
import AnnotationLog.Proofs.Files.Resolve
import AnnotationLog.Proofs.Text.Utf8
import AnnotationLog.Proofs.Annotation.Source
import AnnotationLog.Proofs.Kind.Tally
import AnnotationLog.Proofs.Kind.Entry
import AnnotationLog.Proofs.Log.Parts
import AnnotationLog.Proofs.Log.Standard
import AnnotationLog.Proofs.Command.Default
import AnnotationLog.Proofs.Command.FirstRun
import AnnotationLog.Proofs.Command.Check
import AnnotationLog.Proofs.Command.Effect
import AnnotationLog.Proofs.Files.View
import AnnotationLog.Proofs.Files.Walk
import AnnotationLog.Proofs.Log.Found
import AnnotationLog.Proofs.Log.TodoList
import AnnotationLog.Proofs.Template.Day
import AnnotationLog.Proofs.Log.Skip
import AnnotationLog.Proofs.Log.History
import AnnotationLog.Proofs.Log.Rerun
import AnnotationLog.Proofs.Annotation.Barrier
import AnnotationLog.Proofs.Annotation.Indent
import AnnotationLog.Proofs.Annotation.Detail
import AnnotationLog.Proofs.Command.DryRun
import AnnotationLog.Proofs.Kind.Lines
import AnnotationLog.Proofs.Annotation.LineEnd
import AnnotationLog.Proofs.Template.Order
import AnnotationLog.Proofs.Files.Content
import AnnotationLog.Proofs.Session.History
