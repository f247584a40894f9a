-- Carrying the learner's own files forward into the next stage of a project. A stage that was
-- never visited takes over which files there are, and keeps its tests. A stage with the same
-- task files only differs in tests. Where both stages went their own way, a resolver decides
-- which side stays.
import LessonHistory.Diff
import LessonHistory.Lesson.Classifier
import LessonHistory.Record

namespace LessonHistory

/-- The answer to a conflict between two stages: the target keeps its files, or they are replaced by
those of the current task. -/
inductive Resolution where
  | keep
  | replace
  deriving DecidableEq

/-- Two tasks whose files went their own ways. -/
structure Conflict where
  current : String
  target : String
  deriving DecidableEq

/-- The question to the learner. -/
def Conflict.prompt (conflict : Conflict) : String :=
  "Changes from " ++ conflict.current ++ " conflict with the changes made on " ++ conflict.target
    ++ ".\nKeep content of " ++ conflict.target ++ " or replace with the changes from "
    ++ conflict.current ++ "?"

/-- Whoever answers conflicts. -/
abbrev Resolver := Conflict → Resolution

/-- The resolver with one answer to every conflict. -/
def Resolver.always (resolution : Resolution) : Resolver := fun _ => resolution

/-- The given resolver, or the one that always answers with the default. -/
def Resolver.orDefault (resolver? : Option Resolver) (default : Resolution) : Resolver :=
  resolver?.getD (always default)

/-- The changes that carry a task forward, and the conflicts that were put to the resolver. -/
structure Propagation where
  changes : List Change
  asked : List Conflict
  deriving DecidableEq

namespace Propagation

/-- Brings the tests to those of the target, and makes the files of the current task the files
of the target, with the text that they have. -/
def structural (classifier : Classifier) (current target : FileState) : List Change :=
  let currentTask := classifier.taskFiles current
  let targetTask := classifier.taskFiles target
  (classifier.testFiles current).diff (classifier.testFiles target)
    ++ (currentTask.entries.filter fun entry => !targetTask.contains entry.1).map
      (fun entry => Change.addTaskFile entry.1 entry.2)
    ++ (targetTask.paths.filter fun path => !currentTask.contains path).map Change.removeTaskFile

/-- The changes that carry the current files into the target task, which has `record` and last
had the files `target`. -/
def resolve (classifier : Classifier) (current target : FileState) (record : Option Record)
    (conflict : Conflict) (resolver : Resolver) : Propagation :=
  if record = none then ⟨structural classifier current target, []⟩
  else if classifier.taskFiles current = classifier.taskFiles target then
    ⟨(classifier.testFiles current).diff (classifier.testFiles target), []⟩
  else
    match resolver conflict with
    | .keep => ⟨current.diff target, [conflict]⟩
    | .replace => ⟨structural classifier current target, [conflict]⟩

end Propagation

end LessonHistory
