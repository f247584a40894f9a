-- Moving from task to task. A move stores what the learner did in the task that is left,
-- fetches what is stored for the task that is entered, and gives the changes that turn the
-- files of the one into those of the other. A store that fails never holds up a move: the
-- failure is reported, and the changes that it concerns count as none.
import LessonHistory.Lesson.Basic
import LessonHistory.Lesson.Propagation
import LessonHistory.Store.ChangeLog

namespace LessonHistory

/-- What came of a move that was not refused. The changes turn the files on disk into those of the
task that is entered, and the conflicts that the resolver was asked about are kept. -/
structure Transition (σ : Type) where
  lesson : Lesson
  store : σ
  changes : List Change
  asked : List Conflict
  events : List MetadataEvent
  notices : List Notice

/-- What came of a move with its effect on the workspace. -/
structure Passage (σ ω : Type) where
  lesson : Lesson
  store : σ
  workspace : ω
  result : Except NavError (List Change)
  asked : List Conflict
  events : List MetadataEvent
  notices : List Notice

/-- What came of storing changes for one task. -/
structure Saved (σ : Type) where
  task : Task
  store : σ
  events : List MetadataEvent
  notices : List Notice

namespace Navigator

/-- Reports a failure of the store in the work on a task. -/
def storeNotice (message : String) (task : Task) (error : StoreError) : Notice :=
  ⟨.error, message, [("task", task.name), ("error", error.message)]⟩

variable {σ ω : Type} [ChangeLog σ] [Workspace ω]

/-- Stores what the learner did in a task, whose files on disk are `onDisk`. Gives the task,
the store, the changes as far as they were stored, and the notices. -/
def saveEdits (store : σ) (task : Task) (onDisk : FileState) :
    Task × σ × List Change × List Notice :=
  let edits := task.files.diff onDisk
  match ChangeLog.updateAndForce store task.record edits with
  | (.ok record, store) => ({ task with record := some record }, store, edits, [])
  | (.error error, store) =>
    (task, store, [], [storeNotice "failed to save user changes" task error])

/-- The changes that are stored for a task. -/
def loadChanges (store : σ) (task : Task) : List Change × List Notice :=
  match ChangeLog.changes store task.record with
  | .ok changes => (changes, [])
  | .error error => ([], [storeNotice "failed to get user changes" task error])

/-- The changes from the files of one task to those of another. Only a move forward in a staged
lesson carries the learner's files along. -/
def changesBetween (lesson : Lesson) (direction : Direction) (source target : Task)
    (current goal : FileState) (resolver : Resolver) : Propagation :=
  if direction = .next ∧ lesson.kind = .staged then
    Propagation.resolve lesson.classifier current goal target.record
      ⟨source.name, target.name⟩ resolver
  else ⟨current.diff goal, []⟩

/-- Moves to the neighbouring task, when the files of the current task on disk are `onDisk`. -/
def transition (lesson : Lesson) (store : σ) (direction : Direction) (onDisk : FileState)
    (resolver : Resolver) : Except NavError (Transition σ) := do
  let move ← lesson.move direction
  let source := lesson.tasks[move.source]
  let target := lesson.tasks[move.target]
  let (saved, store, edits, saveNotices) := saveEdits store source onDisk
  let (stored, loadNotices) := loadChanges store target
  let current := source.files.replay edits
  let goal := target.files.replay stored
  let propagation := changesBetween lesson direction source target current goal resolver
  let moved := { lesson with current := move.target }.withTask move.source saved
  let entered := { target with files := target.files.replayStructural propagation.changes }
  let isStructural := propagation.changes.any Change.isStructural
  pure
    { lesson := if isStructural then moved.withTask move.target entered else moved
      store
      changes := propagation.changes
      asked := propagation.asked
      events := [.lesson lesson.name move.target, .task saved]
        ++ if isStructural then [.task entered] else []
      notices := saveNotices ++ loadNotices }

/-- Moves to the neighbouring task and brings the workspace to its files. -/
def prepare (lesson : Lesson) (store : σ) (workspace : ω) (direction : Direction)
    (resolver : Resolver) : Passage σ ω :=
  match lesson.move direction with
  | .error error => ⟨lesson, store, workspace, .error error, [], [], []⟩
  | .ok move =>
    let (onDisk, captureNotices) := Workspace.capture workspace lesson.tasks[move.source].files.paths
    match transition lesson store direction onDisk resolver with
    | .error error => ⟨lesson, store, workspace, .error error, [], [], captureNotices⟩
    | .ok passed =>
      let (outcome, workspace) := Workspace.apply workspace passed.changes
      { lesson := passed.lesson
        store := passed.store
        workspace
        result := match outcome with
          | .ok () => .ok passed.changes
          | .error error => .error (.workspace error)
        asked := passed.asked
        events := passed.events
        notices := captureNotices ++ passed.notices }

/-- Stores a solution from elsewhere as the learner's changes of a task. Tests in the solution
do not count. -/
def saveExternal (store : σ) (task : Task) (classifier : Classifier) (solution : FileState) :
    Saved σ :=
  let changes := (classifier.taskFiles task.files).diff (classifier.taskFiles solution)
  match ChangeLog.update store task.record changes with
  | (.ok record, store) =>
    let task := { task with record := some record }
    ⟨task, store, [.task task], []⟩
  | (.error error, store) =>
    ⟨task, store, [.task task], [storeNotice "failed to save external solution" task error]⟩

/-- Puts the stored changes of a task in terms of new files of the task. -/
def rebase (store : σ) (task : Task) (baseline : FileState) : σ × List Notice :=
  match task.record with
  | none => (store, [])
  | some record =>
    match ChangeLog.changes store (some record) with
    | .error error => (store, [storeNotice "failed to get user changes" task error])
    | .ok changes =>
      match ChangeLog.update store (some record) (baseline.rebase changes) with
      | (.ok _, store) => (store, [])
      | (.error error, store) =>
        (store, [storeNotice "failed to update user changes" task error])

end Navigator

end LessonHistory
