-- The changes that lead from one state of the files to another: first what is new or differs,
-- in the order of the paths, then what is gone, in the order of the paths.
import LessonHistory.Change

namespace LessonHistory

namespace FileState

/-- The change that brings the file at `path` from its text in the baseline to `text`, if one
is needed. -/
def writeChange (baseline : FileState) (path text : String) : Option Change :=
  match baseline.get? path with
  | none => some (.addFile path text)
  | some old => if old = text then none else some (.changeFile path text)

/-- The changes that lead from `baseline` to `current`. -/
def diff (baseline current : FileState) : List Change :=
  current.entries.filterMap (fun entry => baseline.writeChange entry.1 entry.2)
    ++ (baseline.paths.filter fun path => !current.contains path).map Change.removeFile

end FileState

end LessonHistory
