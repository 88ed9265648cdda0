/-!
# File faults

Why a file or directory could not be used, and the words for it.
-/

namespace DispatchTables

/-- Why the file system refuses an operation. -/
inductive FileFault where
  | noSuchFile
  | alreadyExists
  | notDirectory
  | isDirectory
  | nameTooLong
  | nulInName
  | notUtf8
  deriving DecidableEq

/-- The words for a fault, with the system's error number where it has one. -/
def FileFault.text : FileFault → String
  | .noSuchFile => "No such file or directory (os error 2)"
  | .alreadyExists => "File exists (os error 17)"
  | .notDirectory => "Not a directory (os error 20)"
  | .isDirectory => "Is a directory (os error 21)"
  | .nameTooLong => "File name too long (os error 36)"
  | .nulInName => "file name contained an unexpected NUL byte"
  | .notUtf8 => "stream did not contain valid UTF-8"

end DispatchTables
