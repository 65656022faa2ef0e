/-
Loading: configuration files.

A file that is named must be there; the file of a directory is used if it is there.
-/
import AnnotationLog.Config.Decode
import AnnotationLog.Files.Access

namespace AnnotationLog.Config

/-- The configuration in a YAML text that came from a path. -/
def parse (text : Text) (origin : Path) : Except LogError Config :=
  match ofText text with
  | .ok config => .ok config
  | .error fault => .error (.config origin fault)

/-- The configuration in a file. -/
def load (fs : FileSystem) (p : Path) : Except LogError Config :=
  match fs.readText p with
  | .ok text => parse text p
  | .error e => .error (.config p (.unreadable e))

/-- The configuration of a directory; a directory without one makes no settings. -/
def loadDefault (fs : FileSystem) (dir : Path) : Except LogError Config :=
  let p := Path.join dir configFileName
  if fs.isFile p then load fs p else .ok {}

end AnnotationLog.Config
