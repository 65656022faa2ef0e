/-
Content: the bytes of a file as text.

A file with a zero byte near its front is binary and is not read; anything else must be UTF-8
from end to end.
-/
import AnnotationLog.Files.Error
import AnnotationLog.Text.Utf8

namespace AnnotationLog

/-- How many bytes are looked at to tell text from binary data. -/
def probeLength : Nat := 8192

/-- How many bytes a source file may have unless a limit is set. -/
def defaultMaxBytes : Nat := 10485760

/-- Whether a zero byte stands among the first bytes. -/
def isBinary (bytes : Bytes) : Bool :=
  (bytes.take probeLength).contains 0

/-- The text that some bytes hold. -/
def decodeText (bytes : Bytes) : Except FileError Text :=
  if isBinary bytes then .error .binary
  else
    match Utf8.decode bytes with
    | .ok text => .ok text
    | .error offset => .error (.encoding offset)

/-- The text of a source file of limited size. -/
def decodeSource (limit : Nat) (bytes : Bytes) : Except FileError Text :=
  if limit < bytes.length then .error (.tooLarge bytes.length limit) else decodeText bytes

end AnnotationLog
