import TagOrder.Text.Utf8

/-!
# File errors

Why a file could not be read, written or copied. Errors of the file system proper are told apart
from contents and names that are no text.
-/

namespace TagOrder

/-- Why a file operation failed. -/
inductive FileError where
  | missing (path : String)
  | notDirectory (path : String)
  | isDirectory (path : String)
  | noSuchDirectory (path : String)
  | sameFile (source destination : String)
  /-- The storage refuses an action. -/
  | refused (action : String)
  /-- A name, or a path as a whole, is longer than the file system takes. -/
  | tooLong (path : String)
  | undecodable (error : DecodeError)
  | unencodable (error : EncodeError)
  | nulInPath
  /-- A pattern has two stars in a name with more to it. -/
  | badPattern
  deriving DecidableEq, Repr

namespace FileError

/-- The words for a failure. -/
def message : FileError -> String
  | missing path => "[Errno 2] No such file or directory: " ++ quotedString path
  | notDirectory path => "[Errno 20] Not a directory: " ++ quotedString path
  | isDirectory path => "[Errno 21] Is a directory: " ++ quotedString path
  | noSuchDirectory path => "Directory does not exist: " ++ path
  | sameFile source destination =>
    quotedString source ++ " and " ++ quotedString destination ++ " are the same file"
  | refused action => action ++ " refused"
  | tooLong path => "[Errno 36] File name too long: " ++ quotedString path
  | undecodable error => error.message
  | unencodable error => error.message
  | nulInPath => "embedded null byte"
  | badPattern => "Invalid pattern: '**' can only be an entire path component"

/-- Whether the file system itself failed, and not the contents or the name. -/
def isSystem : FileError -> Bool
  | undecodable _ | unencodable _ | nulInPath | badPattern => false
  | _ => true

end FileError

end TagOrder
