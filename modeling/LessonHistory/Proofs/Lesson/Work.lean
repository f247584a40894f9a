-- Work on a lesson, whatever its kind, its workspace and the failures of its store: moves, edits,
-- solutions from elsewhere, and new files for a task. At most one task is given changes at a time,
-- and then under the record that it had, or under a new one.
import LessonHistory.Proofs.Lesson.Transition
import LessonHistory.Proofs.Store.Safe

namespace LessonHistory

/-- The record of the task at an index, if there is such a task and it has one. -/
def Lesson.record? (lesson : Lesson) (i : Nat) : Option Record := lesson.tasks[i]?.bind Task.record

/-- A lesson at work, with the changes that the store took for each task, the last ones first, and
what came of the last move. -/
structure Work (σ ω : Type) where
  lesson : Lesson
  store : σ
  workspace : ω
  saves : List (Nat × List Change)
  passage : Propagation

/-- What can be done in the work on a lesson, by the learner or from elsewhere. The last two are
what befalls it: the workspace is edited, and the store begins to fail, or does so no longer. -/
inductive Deed (σ ω : Type) where
  | move (direction : Direction) (resolver : Resolver)
  | transition (direction : Direction) (onDisk : FileState) (resolver : Resolver)
  | external (index : Nat) (solution : FileState)
  | rebase (index : Nat) (baseline : FileState)
  | replace (index : Nat) (files : FileState)
  | edit (workspace : ω)
  | fault (store : σ)

namespace Navigator

variable {σ : Type} [ChangeLog σ]

/-- The changes that bring the files of a task that are no tests to those of a solution. -/
def solving (task : Task) (classifier : Classifier) (solution : FileState) : List Change :=
  (classifier.taskFiles task.files).diff (classifier.taskFiles solution)

theorem saveExternal_of_update {store after : σ} {task : Task} {classifier : Classifier}
    {solution : FileState} {outcome : Except StoreError Record}
    (h : ChangeLog.update store task.record (solving task classifier solution)
      = (outcome, after)) :
    (saveExternal store task classifier solution).store = after ∧
      (saveExternal store task classifier solution).task
        = { task with record := outcome.toOption.or task.record } ∧
      ((saveExternal store task classifier solution).notices = [] ↔ outcome.isOk = true) := by
  unfold solving at h
  unfold saveExternal
  cases outcome with
  | error error => simp [h, Except.toOption, Except.isOk, Except.toBool]
  | ok given => simp [h, Except.toOption, Except.isOk, Except.toBool]

end Navigator

namespace Work

variable {σ ω : Type}

def start (lesson : Lesson) (store : σ) (workspace : ω) : Work σ ω :=
  ⟨lesson, store, workspace, [], ⟨[], []⟩⟩

/-- The changes of the last save for a task that the store took. -/
def lastSave (s : Work σ ω) (i : Nat) : Option (List Change) := s.saves.lookup i

/-- The saves after one more, for the task at `index`, with the given outcome. -/
def noteSave (s : Work σ ω) (index : Nat) (changes : List Change)
    (outcome : Except StoreError Record × σ) : List (Nat × List Change) :=
  if outcome.1.isOk then (index, changes) :: s.saves else s.saves

/-! ## Deeds -/

section

variable [ChangeLog σ]

/-- The work after a move when the files of the current task on disk are `onDisk`. -/
def transition (s : Work σ ω) (direction : Direction) (onDisk : FileState) (resolver : Resolver) :
    Work σ ω :=
  match s.lesson.currentTask?,
    Navigator.transition s.lesson s.store direction onDisk resolver with
  | some task, .ok passed =>
    let edits := task.files.diff onDisk
    { s with
      lesson := passed.lesson
      store := passed.store
      saves := s.noteSave s.lesson.current edits
        (ChangeLog.updateAndForce s.store task.record edits)
      passage := ⟨passed.changes, passed.asked⟩ }
  | _, _ => s

/-- The work after a solution from elsewhere was stored for a task. -/
def external (s : Work σ ω) (index : Nat) (solution : FileState) : Work σ ω :=
  match s.lesson.tasks[index]? with
  | none => s
  | some task =>
    let saved := Navigator.saveExternal s.store task s.lesson.classifier solution
    let changes := Navigator.solving task s.lesson.classifier solution
    { s with
      lesson := s.lesson.withTask index saved.task
      store := saved.store
      saves := s.noteSave index changes (ChangeLog.update s.store task.record changes) }

/-- The work after the stored changes of a task were put in terms of new files. -/
def rebase (s : Work σ ω) (index : Nat) (baseline : FileState) : Work σ ω :=
  match s.lesson.tasks[index]? with
  | none => s
  | some task =>
    { s with
      store := (Navigator.rebase s.store task baseline).1
      saves := match task.record with
        | none => s.saves
        | some record =>
          match ChangeLog.changes s.store (some record) with
          | .error _ => s.saves
          | .ok stored => s.noteSave index (baseline.rebase stored)
            (ChangeLog.update s.store (some record) (baseline.rebase stored)) }

/-- The work after a task was given new files. -/
def replace (s : Work σ ω) (index : Nat) (files : FileState) : Work σ ω :=
  match s.lesson.tasks[index]? with
  | none => s
  | some task => { s with lesson := s.lesson.withTask index { task with files } }

variable [Workspace ω]

/-- What a move would capture of the current task. -/
def onDisk (s : Work σ ω) : FileState :=
  match s.lesson.currentTask? with
  | none => .empty
  | some task => (Workspace.capture s.workspace task.files.paths).1

def move (s : Work σ ω) (direction : Direction) (resolver : Resolver) : Work σ ω :=
  let passage := Navigator.prepare s.lesson s.store s.workspace direction resolver
  { s.transition direction s.onDisk resolver with
    lesson := passage.lesson
    store := passage.store
    workspace := passage.workspace }

/-- The work after a deed. -/
def perform (s : Work σ ω) : Deed σ ω → Work σ ω
  | .move direction resolver => s.move direction resolver
  | .transition direction onDisk resolver => s.transition direction onDisk resolver
  | .external index solution => s.external index solution
  | .rebase index baseline => s.rebase index baseline
  | .replace index files => s.replace index files
  | .edit workspace => { s with workspace }
  | .fault store => { s with store }

end

/-- What comes of the work when only deeds of one sort are done. -/
inductive Run [ChangeLog σ] [Workspace ω] (allowed : Work σ ω → Deed σ ω → Prop)
    (initial : Work σ ω) : Work σ ω → Prop where
  | start : Run allowed initial initial
  | step {s : Work σ ω} (before : Run allowed initial s) (deed : Deed σ ω) (h : allowed s deed) :
      Run allowed initial (s.perform deed)

/-- A deed that can be done. All but the store itself decides what the store holds. -/
def Possible [ChangeLog σ] [SafeLog σ] (s : Work σ ω) : Deed σ ω → Prop
  | .fault store => ∀ arena, SafeLog.Holds s.store arena → SafeLog.Holds store arena
  | _ => True

/-- A deed in the work with a store that does not fail, and on tasks whose files nobody replaces. -/
def Steady [ChangeLog σ] [SafeLog σ] [Workspace ω] (s : Work σ ω) : Deed σ ω → Prop
  | .move direction resolver => ∀ passed,
    Navigator.transition s.lesson s.store direction s.onDisk resolver = .ok passed →
      passed.notices = []
  | .transition direction onDisk resolver => ∀ passed,
    Navigator.transition s.lesson s.store direction onDisk resolver = .ok passed →
      passed.notices = []
  | .rebase _ _ => False
  | .replace _ _ => False
  | deed => s.Possible deed

theorem Steady.possible [ChangeLog σ] [SafeLog σ] [Workspace ω] {s : Work σ ω} {deed : Deed σ ω}
    (h : s.Steady deed) : s.Possible deed := by
  cases deed with
  | fault store => exact h
  | _ => trivial

/-! ## Moves -/

theorem capture_leaves [Workspace ω] {s : Work σ ω} {direction : Direction} {way : s.lesson.Move}
    (hway : s.lesson.move direction = .ok way) :
    (Workspace.capture s.workspace way.leaves.files.paths).1 = s.onDisk := by
  unfold Work.onDisk
  rw [Lesson.Move.currentTask?_eq hway]

section

variable [ChangeLog σ] {s : Work σ ω} {direction : Direction} {onDisk : FileState}
  {resolver : Resolver}

theorem transition_of_error {error : NavError} (h : s.lesson.move direction = .error error)
    (onDisk : FileState) (resolver : Resolver) : s.transition direction onDisk resolver = s := by
  unfold transition
  rw [Navigator.transition_of_error h]
  split
  · rename_i hmade
    cases hmade
  · rfl

theorem transition_cases (s : Work σ ω) (direction : Direction) (onDisk : FileState)
    (resolver : Resolver) :
    (∃ error, s.lesson.move direction = .error error ∧
      s.transition direction onDisk resolver = s) ∨
    (∃ way error after, s.lesson.move direction = .ok way ∧
      ChangeLog.updateAndForce s.store way.leaves.record (way.leaves.files.diff onDisk)
        = (.error error, after) ∧
      let propagation := Navigator.changesBetween s.lesson direction way.leaves way.enters
        way.leaves.files (Navigator.filesOf after way.enters) resolver
      s.transition direction onDisk resolver = ⟨way.crossed way.leaves propagation.changes, after,
        s.workspace, s.saves, propagation⟩) ∨
    (∃ way given after, s.lesson.move direction = .ok way ∧
      ChangeLog.updateAndForce s.store way.leaves.record (way.leaves.files.diff onDisk)
        = (.ok given, after) ∧
      let propagation := Navigator.changesBetween s.lesson direction way.leaves way.enters onDisk
        (Navigator.filesOf after way.enters) resolver
      s.transition direction onDisk resolver
        = ⟨way.crossed { way.leaves with record := some given } propagation.changes, after,
          s.workspace, (s.lesson.current, way.leaves.files.diff onDisk) :: s.saves,
          propagation⟩) := by
  cases hway : s.lesson.move direction with
  | error error => exact .inl ⟨error, rfl, transition_of_error hway onDisk resolver⟩
  | ok way =>
    unfold transition
    rw [Lesson.Move.currentTask?_eq hway]
    rcases hwritten : ChangeLog.updateAndForce s.store way.leaves.record
      (way.leaves.files.diff onDisk) with ⟨error | given, after⟩
    · refine .inr (.inl ⟨way, error, after, rfl, hwritten, ?_⟩)
      have htransition :=
        Navigator.transition_eq hway (Navigator.saveEdits_of_error hwritten) resolver
      simp only [htransition, hwritten]
      rfl
    · refine .inr (.inr ⟨way, given, after, rfl, hwritten, ?_⟩)
      have htransition :=
        Navigator.transition_eq hway (Navigator.saveEdits_of_ok hwritten) resolver
      rw [FileState.replay_diff] at htransition
      simp only [htransition, hwritten]
      rfl

/-- A move in which the store does not fail starts from the files on disk, and leads to what is
stored for its target. -/
theorem transition_of_steady {way : s.lesson.Move} (hway : s.lesson.move direction = .ok way)
    (hsteady : ∀ passed,
      Navigator.transition s.lesson s.store direction onDisk resolver = .ok passed →
        passed.notices = []) :
    ∃ given after stored, ChangeLog.changes after way.enters.record = .ok stored ∧
      let propagation := Navigator.changesBetween s.lesson direction way.leaves way.enters onDisk
        (way.enters.files.replay stored) resolver
      s.transition direction onDisk resolver
        = ⟨way.crossed { way.leaves with record := some given } propagation.changes, after,
          s.workspace, (s.lesson.current, way.leaves.files.diff onDisk) :: s.saves,
          propagation⟩ := by
  have htransition := Navigator.transition_eq hway
    (show Navigator.saveEdits s.store way.leaves onDisk = (_, _, _, _) from rfl) resolver
  obtain ⟨given, after, stored, hwritten, hread⟩ :=
    Navigator.exists_stored_of_notices hway htransition (hsteady _ htransition)
  refine ⟨given, after, stored, hread, ?_⟩
  have hmade :=
    Navigator.transition_eq hway (Navigator.saveEdits_of_ok hwritten) resolver
  rw [FileState.replay_diff, Navigator.filesOf_of_ok hread] at hmade
  unfold transition
  simp only [Lesson.Move.currentTask?_eq hway, hmade, hwritten]
  rfl

theorem external_eq {index : Nat} {task : Task} (htask : s.lesson.tasks[index]? = some task)
    (solution : FileState) :
    let changes := Navigator.solving task s.lesson.classifier solution
    let outcome := ChangeLog.update s.store task.record changes
    s.external index solution = { s with
      lesson := s.lesson.withTask index { task with record := outcome.1.toOption.or task.record }
      store := outcome.2
      saves := s.noteSave index changes outcome } := by
  intro changes outcome
  obtain ⟨hstore, hsaved, -⟩ := Navigator.saveExternal_of_update
    (show ChangeLog.update s.store task.record changes = (outcome.1, outcome.2) from rfl)
  unfold external
  simp only [htask, hstore, hsaved]
  rfl

theorem rebase_cases (s : Work σ ω) (index : Nat) (baseline : FileState) :
    s.rebase index baseline = s ∨
    ∃ record stored, s.lesson.record? index = some record ∧
      ChangeLog.changes s.store (some record) = .ok stored ∧
      let outcome := ChangeLog.update s.store (some record) (baseline.rebase stored)
      s.rebase index baseline = { s with
        store := outcome.2
        saves := s.noteSave index (baseline.rebase stored) outcome } := by
  unfold rebase Navigator.rebase Lesson.record?
  cases s.lesson.tasks[index]? with
  | none => exact .inl rfl
  | some task =>
    cases hrecord : task.record with
    | none =>
      refine .inl ?_
      simp only [hrecord]
    | some record =>
      cases hread : ChangeLog.changes s.store (some record) with
      | error error =>
        refine .inl ?_
        simp only [hrecord, hread]
      | ok stored =>
        refine .inr ⟨record, stored, hrecord, hread, ?_⟩
        rcases hupdate : ChangeLog.update s.store (some record) (baseline.rebase stored)
          with ⟨error | given, after⟩
        · simp only [hrecord, hread, hupdate]
        · simp only [hrecord, hread, hupdate]

theorem move_eq [Workspace ω] (s : Work σ ω) (direction : Direction) (resolver : Resolver) :
    s.move direction resolver = { s.transition direction s.onDisk resolver with
      workspace := (Navigator.prepare s.lesson s.store s.workspace direction
        resolver).workspace } := by
  unfold move
  cases hway : s.lesson.move direction with
  | error error =>
    unfold Navigator.prepare
    simp only [hway, transition_of_error hway]
  | ok way =>
    unfold transition Navigator.prepare
    simp only [hway, Lesson.Move.currentTask?_eq hway, Lesson.Move.getElem_source,
      capture_leaves hway]
    cases Navigator.transition s.lesson s.store direction s.onDisk resolver with
    | error error => rfl
    | ok passed => rfl

end

end Work

end LessonHistory
