-- What an operation reports beside its answer: problems that it could live with.

namespace LessonHistory

/-- How grave a notice is. -/
inductive Severity where
  | warning
  | error
  deriving DecidableEq

/-- One report: what happened, and the particulars by name. -/
structure Notice where
  severity : Severity
  message : String
  particulars : List (String × String)
  deriving DecidableEq

end LessonHistory
