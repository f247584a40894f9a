-- A learner at work: moves between the tasks and edits of the files, one after the other, with
-- what was captured of every task when it was last left. A move is either refused, and then
-- changes nothing, or made, and then all that it does follows from what the store gives.
import LessonHistory.Proofs.Lesson.Transition
import LessonHistory.Proofs.Store.Faithful

namespace LessonHistory

/-- Whether one of the tasks has a file at the path. -/
def Lesson.isCanonical (lesson : Lesson) (path : String) : Bool :=
  lesson.tasks.any fun task => task.files.contains path

/-- Whether the current task has a file at the path. -/
def Lesson.isCurrent (lesson : Lesson) (path : String) : Bool :=
  lesson.currentTask?.any fun task => task.files.contains path

/-- Before anything was done the lesson is on its first task, no task has a record, and of all
files of tasks the workspace has only some of the first task. -/
structure Lesson.Begins (lesson : Lesson) (workspace : MemoryWorkspace) : Prop where
  first : lesson.current = 0
  unsaved : ∀ task ∈ lesson.tasks, task.record = none
  own : ∀ path, lesson.isCanonical path = true → workspace.files.contains path = true →
    lesson.isCurrent path = true

/-- A lesson at work. What was captured of a task when it was last left is remembered; before that
it is the task's own files. -/
structure Session (σ : Type) where
  lesson : Lesson
  store : σ
  workspace : MemoryWorkspace
  left : Nat → FileState

namespace Session

variable {σ : Type}

def start (lesson : Lesson) (store : σ) (workspace : MemoryWorkspace) : Session σ :=
  ⟨lesson, store, workspace, fun i => (lesson.tasks[i]?.map Task.files).getD .empty⟩

/-- What a move would capture of the current task. -/
def onDisk (s : Session σ) : FileState :=
  match s.lesson.currentTask? with
  | none => .empty
  | some task => (Workspace.capture s.workspace task.files.paths).1

/-- The learner writes a file, or deletes it. -/
def edit (s : Session σ) (path : String) (text? : Option String) : Session σ :=
  { s with workspace := s.workspace.edit path text? }

/-! ## Moves -/

theorem capture_of_move {s : Session σ} {direction : Direction} {way : s.lesson.Move}
    (h : s.lesson.move direction = .ok way) :
    Workspace.capture s.workspace way.leaves.files.paths = (s.onDisk, []) := by
  unfold onDisk
  rw [Lesson.Move.currentTask?_eq h]
  simp only [MemoryWorkspace.capture_eq]

variable [ChangeLog σ]

/-- What comes of a move. -/
def passage (s : Session σ) (direction : Direction) (resolver : Resolver) :
    Passage σ MemoryWorkspace :=
  Navigator.prepare s.lesson s.store s.workspace direction resolver

/-- The work after a move. -/
def move (s : Session σ) (direction : Direction) (resolver : Resolver) : Session σ :=
  let passage := s.passage direction resolver
  { lesson := passage.lesson
    store := passage.store
    workspace := passage.workspace
    left := fun i => if passage.result.isOk ∧ i = s.lesson.current then s.onDisk else s.left i }

/-- What can come of some work in which the store never fails. The learner edits files of the
current task, and files that none of the tasks had at the start. -/
inductive Run (initial : Session σ) : Session σ → Prop where
  | start : Run initial initial
  | move {s : Session σ} (before : Run initial s) (direction : Direction) (resolver : Resolver)
      (steady : (s.passage direction resolver).notices = []) :
      Run initial (s.move direction resolver)
  | edit {s : Session σ} (before : Run initial s) (path : String) (text? : Option String)
      (own : s.lesson.isCurrent path = true ∨ initial.lesson.isCanonical path = false) :
      Run initial (s.edit path text?)

/-! ## Moves that are made -/

/-- A move that is not refused, and in which the store does not fail. -/
structure Crossing (s : Session σ) (direction : Direction) where
  way : s.lesson.Move
  way_eq : s.lesson.move direction = .ok way
  given : Record
  saved : σ
  stored : List Change
  written : ChangeLog.updateAndForce s.store way.leaves.record
    (way.leaves.files.diff s.onDisk) = (.ok given, saved)
  read : ChangeLog.changes saved way.enters.record = .ok stored

namespace Crossing

variable {s : Session σ} {direction : Direction} {resolver : Resolver}

/-- The files that the target had last. -/
def goal (c : s.Crossing direction) : FileState :=
  c.way.enters.files.replay c.stored

/-- The changes of the move. -/
def propagation (c : s.Crossing direction) (resolver : Resolver) : Propagation :=
  Navigator.changesBetween s.lesson direction c.way.leaves
    c.way.enters s.onDisk c.goal resolver

theorem source_ne_target (c : s.Crossing direction) : (c.way.source : Nat) ≠ c.way.target :=
  Lesson.Move.source_ne_target c.way_eq

/-- The task that is left, with its record. -/
def departed (c : s.Crossing direction) : Task := { c.way.leaves with record := some c.given }

/-- The task that is entered, with the files that the move gives it. -/
def entered (c : s.Crossing direction) (resolver : Resolver) : Task :=
  { c.way.enters with
    files := c.way.enters.files.replayStructural (c.propagation resolver).changes }

/-- The lesson after the move. -/
def after (c : s.Crossing direction) (resolver : Resolver) : Lesson :=
  { s.lesson with
    current := c.way.target
    tasks := (s.lesson.tasks.set c.way.source c.departed).set c.way.target (c.entered resolver) }

theorem source_eq_current (c : s.Crossing direction) :
    (c.way.source : Nat) = s.lesson.current := (Lesson.way_of_move c.way_eq).1

theorem target_ne_current (c : s.Crossing direction) :
    (c.way.target : Nat) ≠ s.lesson.current := by
  rw [← c.source_eq_current]
  exact c.source_ne_target.symm

theorem isCurrent_eq (c : s.Crossing direction) (path : String) :
    s.lesson.isCurrent path = c.way.leaves.files.contains path := by
  unfold Lesson.isCurrent
  rw [Lesson.Move.currentTask?_eq c.way_eq]
  rfl

theorem getElem?_after (c : s.Crossing direction) (resolver : Resolver) (i : Nat) :
    (c.after resolver).tasks[i]? = if i = c.way.target then some (c.entered resolver)
      else if i = c.way.source then some c.departed else s.lesson.tasks[i]? :=
  Lesson.Move.getElem?_crossed c.way_eq c.departed (c.propagation resolver).changes i

theorem isCurrent_after (c : s.Crossing direction) (resolver : Resolver) (path : String) :
    (c.after resolver).isCurrent path = (c.entered resolver).files.contains path := by
  have hcurrent : (c.after resolver).currentTask? = some (c.entered resolver) :=
    (c.getElem?_after resolver c.way.target).trans (if_pos rfl)
  unfold Lesson.isCurrent
  rw [hcurrent]
  rfl

/-- A task after the move is the target, with the files that the move gives it, or the source,
with its record, or one that the move is not about. -/
theorem after_task_cases (c : s.Crossing direction) {i : Nat} {task : Task}
    (h : (c.after resolver).tasks[i]? = some task) :
    (i = c.way.target ∧ task = c.entered resolver) ∨
    (i = c.way.source ∧ task = c.departed) ∨
    (i ≠ c.way.target ∧ i ≠ c.way.source ∧ s.lesson.tasks[i]? = some task) := by
  rw [getElem?_after] at h
  split at h
  · rename_i htarget
    exact .inl ⟨htarget, (Option.some.inj h).symm⟩
  · rename_i htarget
    split at h
    · rename_i hsource
      exact .inr (.inl ⟨hsource, (Option.some.inj h).symm⟩)
    · rename_i hsource
      exact .inr (.inr ⟨htarget, hsource, h⟩)

theorem record_after (c : s.Crossing direction) {i : Nat} {task : Task} {record : Record}
    (htask : (c.after resolver).tasks[i]? = some task) (hrecord : task.record = some record) :
    (i = c.way.source ∧ record = c.given) ∨
      (i ≠ c.way.source ∧ ∃ old, s.lesson.tasks[i]? = some old ∧ old.record = some record) := by
  rcases c.after_task_cases htask with ⟨rfl, rfl⟩ | ⟨rfl, rfl⟩ | ⟨-, hsource, hold⟩
  · exact .inr ⟨c.source_ne_target.symm, _, c.way.enters_eq, hrecord⟩
  · exact .inl ⟨rfl, (Option.some.inj hrecord).symm⟩
  · exact .inr ⟨hsource, task, hold, hrecord⟩

theorem getElem?_target (c : s.Crossing direction) :
    (s.lesson.tasks.set c.way.source c.departed)[(c.way.target : Nat)]? = some c.way.enters := by
  rw [List.getElem?_set_ne c.source_ne_target]
  exact c.way.enters_eq

theorem passage_eq (c : s.Crossing direction) (resolver : Resolver) :
    ∃ events, s.passage direction resolver
      = ⟨c.after resolver, c.saved, ⟨s.workspace.files.replay (c.propagation resolver).changes⟩,
        .ok (c.propagation resolver).changes, (c.propagation resolver).asked, events, []⟩ := by
  have hload : Navigator.loadChanges c.saved c.way.enters = (c.stored, []) := by
    unfold Navigator.loadChanges
    simp only [c.read]
  have hgoal : Navigator.filesOf c.saved c.way.enters = c.goal := by
    rw [← Navigator.replay_loadChanges, hload]
    rfl
  have htransition :=
    Navigator.transition_eq c.way_eq (Navigator.saveEdits_of_ok c.written) resolver
  rw [FileState.replay_diff, hgoal, hload] at htransition
  unfold passage Navigator.prepare
  simp only [c.way_eq, Lesson.Move.getElem_source, capture_of_move c.way_eq, htransition]
  exact ⟨_, rfl⟩

theorem move_eq (c : s.Crossing direction) (resolver : Resolver) :
    s.move direction resolver
      = ⟨c.after resolver, c.saved, ⟨s.workspace.files.replay (c.propagation resolver).changes⟩,
        fun i => if i = s.lesson.current then s.onDisk else s.left i⟩ := by
  obtain ⟨events, hpassage⟩ := c.passage_eq resolver
  unfold move
  rw [hpassage]
  simp [Except.isOk, Except.toBool]

theorem move_lesson (c : s.Crossing direction) (resolver : Resolver) :
    (s.move direction resolver).lesson = c.after resolver := by
  rw [c.move_eq]

theorem move_left (c : s.Crossing direction) (resolver : Resolver) (i : Nat) :
    (s.move direction resolver).left i = if i = c.way.source then s.onDisk else s.left i := by
  rw [c.move_eq, c.source_eq_current]

end Crossing

theorem move_cases (s : Session σ) (direction : Direction) (resolver : Resolver)
    (hsteady : (s.passage direction resolver).notices = []) :
    (∃ error, s.lesson.move direction = .error error ∧
      (s.passage direction resolver).result = .error error ∧ s.move direction resolver = s) ∨
    Nonempty (s.Crossing direction) := by
  cases hway : s.lesson.move direction with
  | error error =>
    refine .inl ⟨error, rfl, ?_, ?_⟩
    · unfold passage Navigator.prepare
      simp only [hway]
    · unfold move passage Navigator.prepare
      simp [hway, Except.isOk, Except.toBool]
  | ok way =>
    -- Whatever the store does, such a move is made.
    have htransition := Navigator.transition_eq hway
      (show Navigator.saveEdits s.store way.leaves s.onDisk = (_, _, _, _) from rfl) resolver
    unfold passage Navigator.prepare at hsteady
    simp only [hway, Lesson.Move.getElem_source, capture_of_move hway, htransition,
      List.nil_append] at hsteady
    obtain ⟨given, saved, stored, hwritten, hread⟩ :=
      Navigator.exists_stored_of_notices hway htransition hsteady
    exact .inr ⟨way, hway, given, saved, stored, hwritten, hread⟩

end Session

end LessonHistory
