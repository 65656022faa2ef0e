/-
Configuration: the settings that a file can make.
-/
import AnnotationLog.Kind.Custom

namespace AnnotationLog

/-- The settings of a configuration file; what is not set is left to the command line and the
defaults. -/
structure Config where
  logType : Option Text := none
  outfile : Option Path := none
  path : Option Path := none
  extension : Option Text := none
  template : Option Path := none
  maxFileBytes : Option Nat := none
  customKinds : List CustomKind := []
  deriving DecidableEq, Repr

/-- The name of the configuration file of a directory. -/
def configFileName : Text := ".assumptions.yaml".toList

end AnnotationLog
