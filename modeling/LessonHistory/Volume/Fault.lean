-- The ways in which an operation on files fails.

namespace LessonHistory

/-- Why an operation on files failed. An argument is invalid for a kind of file that has no such
operation, and input or output fails in the device below. -/
inductive Fault where
  | noSuchFile
  | inputOutput
  | fileExists
  | notADirectory
  | isADirectory
  | invalidArgument
  | fileTooLarge
  | nameTooLong
  | nulInPath
  | endOfFile
  | invalidText
  deriving DecidableEq

def Fault.message : Fault → String
  | noSuchFile => "No such file or directory (os error 2)"
  | inputOutput => "Input/output error (os error 5)"
  | fileExists => "File exists (os error 17)"
  | notADirectory => "Not a directory (os error 20)"
  | isADirectory => "Is a directory (os error 21)"
  | invalidArgument => "Invalid argument (os error 22)"
  | fileTooLarge => "File too large (os error 27)"
  | nameTooLong => "File name too long (os error 36)"
  | nulInPath => "file name contained an unexpected NUL byte"
  | endOfFile => "failed to fill whole buffer"
  | invalidText => "stream did not contain valid UTF-8"

end LessonHistory
