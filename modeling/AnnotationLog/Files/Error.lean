/-
File errors: why a file could not be found, read or written.

`OsError` is what the operating system answers; `FileError` is what the library says of a file
it was asked for, with the cause kept inside where there is one.
-/
import AnnotationLog.Text.Basic

namespace AnnotationLog

/-- An answer of the operating system. -/
inductive OsError where
  | notFound
  | notDirectory
  | isDirectory
  | nameTooLong
  | tooManyLinks
  | nulInName
  deriving DecidableEq, Repr

namespace OsError

/-- The wording of the operating system. -/
def message : OsError → Text
  | notFound => "No such file or directory (os error 2)".toList
  | notDirectory => "Not a directory (os error 20)".toList
  | isDirectory => "Is a directory (os error 21)".toList
  | nameTooLong => "File name too long (os error 36)".toList
  | tooManyLinks => "Too many levels of symbolic links (os error 40)".toList
  | nulInName => "file name contained an unexpected NUL byte".toList

end OsError

/-- Why a file could not be read as text, or not be written. -/
inductive FileError where
  | notFound (path : Text)
  | tooLarge (size limit : Nat)
  | binary
  | encoding (offset : Nat)
  | system (cause : OsError)
  deriving DecidableEq, Repr

namespace FileError

/-- What is said about the file. -/
def message : FileError → Text
  | notFound path => "File not found: ".toList ++ path
  | tooLarge size limit =>
    "File too large: ".toList ++ Text.ofNat size ++ " bytes (limit: ".toList ++
      Text.ofNat limit ++ [')']
  | binary => "Binary file detected".toList
  | encoding offset => "UTF-8 decoding error at byte ".toList ++ Text.ofNat offset
  | system cause => "IO error: ".toList ++ cause.message

/-- The messages of the errors behind this one. -/
def causes : FileError → List Text
  | system cause => [cause.message]
  | _ => []

end FileError

end AnnotationLog
