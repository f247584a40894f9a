-- Lessons: tasks in a row, of which the learner views one at a time.
import LessonHistory.Lesson.Classifier
import LessonHistory.Record
import LessonHistory.Workspace.Basic

namespace LessonHistory

/-- How the tasks of a lesson hang together. In a template every move brings back the files of the
task that is entered; in a staged lesson a move forward carries the learner's own files along. -/
inductive LessonKind where
  | template
  | staged
  deriving DecidableEq

/-- A step between neighbouring tasks. -/
inductive Direction where
  | next
  | previous
  deriving DecidableEq

/-- Why a move, or a change of the current task, was refused or could not be finished. -/
inductive NavError where
  | indexOutOfRange (current : Nat) (direction : Direction) (length : Nat)
  | unsupportedDelta (delta : Int)
  | workspace (cause : WorkspaceError)
  deriving DecidableEq

namespace Direction

/-- What the step adds to the index of the current task. -/
def delta : Direction → Int
  | next => 1
  | previous => -1

def display : Direction → String
  | next => "next"
  | previous => "previous"

/-- The step that adds `delta` to the index of the current task. -/
def ofDelta (delta : Int) : Except NavError Direction :=
  if delta = 1 then .ok next
  else if delta = -1 then .ok previous
  else .error (.unsupportedDelta delta)

end Direction

def NavError.message : NavError → String
  | indexOutOfRange current direction length =>
    "no " ++ direction.display ++ " task from index " ++ toString current ++ " (lesson has "
      ++ toString length ++ " tasks)"
  | unsupportedDelta delta => "unsupported navigation delta " ++ toString delta
  | workspace cause => cause.message

/-- One task of a lesson, by its position counted from one, with the files that the task itself
consists of. The learner's changes are stored under the record, once they are. -/
structure Task where
  name : String
  index : Nat
  files : FileState
  record : Option Record
  deriving DecidableEq

/-- Tasks that share one workspace, and the index of the current one. -/
structure Lesson where
  name : String
  kind : LessonKind
  classifier : Classifier
  tasks : List Task
  current : Nat
  deriving DecidableEq

namespace Lesson

/-- The lesson with the given tasks, numbered in their order, on its first task. -/
def ofTasks (name : String) (kind : LessonKind) (classifier : Classifier) (tasks : List Task) :
    Lesson :=
  { name, kind, classifier, current := 0
    tasks := tasks.mapIdx fun i task => { task with index := i + 1 } }

/-- The task that the learner views. -/
def currentTask? (lesson : Lesson) : Option Task := lesson.tasks[lesson.current]?

/-- Goes to a task without touching any files. -/
def setCurrent (lesson : Lesson) (index : Nat) : Except NavError Lesson :=
  if index < lesson.tasks.length then .ok { lesson with current := index }
  else .error (.indexOutOfRange index .next lesson.tasks.length)

/-- A move from one task to its neighbour. -/
structure Move (lesson : Lesson) where
  source : Fin lesson.tasks.length
  target : Fin lesson.tasks.length

/-- The move from the current task in a direction, if both tasks exist. -/
def move (lesson : Lesson) (direction : Direction) : Except NavError (Move lesson) :=
  let length := lesson.tasks.length
  match direction with
  | .next =>
    if h : lesson.current + 1 < length then .ok ⟨⟨lesson.current, by omega⟩, ⟨_, h⟩⟩
    else .error (.indexOutOfRange lesson.current direction length)
  | .previous =>
    if h : 0 < lesson.current ∧ lesson.current < length then
      .ok ⟨⟨lesson.current, h.2⟩, ⟨lesson.current - 1, by omega⟩⟩
    else .error (.indexOutOfRange lesson.current direction length)

/-- The index of the neighbouring task in a direction. -/
def targetIndex (lesson : Lesson) (direction : Direction) : Except NavError Nat :=
  (lesson.move direction).map fun move => move.target

def hasNext (lesson : Lesson) : Bool := (lesson.move .next).isOk

def hasPrevious (lesson : Lesson) : Bool := (lesson.move .previous).isOk

/-- The lesson with one task replaced. -/
def withTask (lesson : Lesson) (index : Nat) (task : Task) : Lesson :=
  { lesson with tasks := lesson.tasks.set index task }

end Lesson

/-- What is reported to whoever keeps the data of the course: that another task is the current one,
or that the record or the files of a task were set. -/
inductive MetadataEvent where
  | lesson (name : String) (current : Nat)
  | task (task : Task)
  deriving DecidableEq

end LessonHistory
