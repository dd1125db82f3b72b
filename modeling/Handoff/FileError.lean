import Handoff.Text.Utf8

/-!
What can go wrong when a file is looked up or read.
-/

namespace Handoff

/-- The cause of a failed file operation. -/
inductive FileError
  -- No file of that name.
  | notFound
  -- A file that is no directory stands where a directory has to be.
  | notADirectory
  -- A directory cannot be read as a file.
  | isADirectory
  -- A name, or the whole path, is too long.
  | nameTooLong
  -- Symbolic links lead on without end.
  | tooManyLinks
  -- The path contains a NUL byte.
  | nulInPath
  -- The content is not UTF-8, and where.
  | malformedText (fault : Text.Utf8Error)
  -- The content had to be UTF-8 and is not.
  | notText
deriving DecidableEq, Repr

def FileError.message : FileError → String
  | notFound => "No such file or directory (os error 2)"
  | notADirectory => "Not a directory (os error 20)"
  | isADirectory => "Is a directory (os error 21)"
  | nameTooLong => "File name too long (os error 36)"
  | tooManyLinks => "Too many levels of symbolic links (os error 40)"
  | nulInPath => "file name contained an unexpected NUL byte"
  | malformedText fault => fault.message
  | notText => "stream did not contain valid UTF-8"

end Handoff
