/-!
# Faults of the file system

The ways in which reading or writing a file can fail, and their wording.
-/

namespace SegmentCache

/-- Why a file operation failed. -/
inductive FileFault where
  /-- There is nothing at the path. -/
  | notFound
  /-- Something that is not a directory already stands at the path. -/
  | alreadyExists
  /-- A file stands where the path goes on. -/
  | notADirectory
  /-- A directory stands where a file is needed. -/
  | isADirectory
  /-- A component of the path is longer than a name may be. -/
  | nameTooLong
  /-- The path holds a NUL character. -/
  | holdsNul
  /-- The file does not hold text. -/
  | notText
  deriving DecidableEq, Repr

/-- The wording of a file fault. -/
def FileFault.message : FileFault → String
  | .notFound => "No such file or directory (os error 2)"
  | .alreadyExists => "File exists (os error 17)"
  | .notADirectory => "Not a directory (os error 20)"
  | .isADirectory => "Is a directory (os error 21)"
  | .nameTooLong => "File name too long (os error 36)"
  | .holdsNul => "file name contained an unexpected NUL byte"
  | .notText => "stream did not contain valid UTF-8"

end SegmentCache
