/-!
# Reading files

A run reads a file or two as text. How it does so is left open here: a reader is any function
from paths to texts, and this module names the ways in which it may fail.
-/

namespace Contracts

/-- Why a file could not be read as text. -/
inductive ReadFault where
  /-- Nothing has the path. -/
  | notFound
  /-- Something on the way to the file is no folder. -/
  | notFolder
  /-- The path is that of a folder. -/
  | isFolder
  /-- A name on the path, or the path as a whole, is too long. -/
  | tooLong
  /-- The path holds a zero character. -/
  | zeroInPath
  /-- The file is there but its bytes are not UTF-8. -/
  | notText
  /-- The system refuses for another reason. -/
  | refused (reason : String)
  deriving DecidableEq

/-- The wording of a fault. -/
def ReadFault.display : ReadFault → String
  | .notFound => "No such file or directory (os error 2)"
  | .notFolder => "Not a directory (os error 20)"
  | .isFolder => "Is a directory (os error 21)"
  | .tooLong => "File name too long (os error 36)"
  | .zeroInPath => "file name contained an unexpected NUL byte"
  | .notText => "stream did not contain valid UTF-8"
  | .refused reason => reason

/-- A way to read files as text. -/
abbrev FileReader := String → Except ReadFault String

/-- The last name of a path. -/
def fileName (path : List Char) : List Char := (path.reverse.takeWhile (· != '/')).reverse

/-- What stands behind the last point of a file's name, unless the point begins the name. -/
def extension? (path : String) : Option String :=
  let name := fileName path.toList
  let behind := (name.reverse.takeWhile (· != '.')).reverse
  if behind.length + 1 < name.length then some (String.ofList behind) else none

end Contracts
