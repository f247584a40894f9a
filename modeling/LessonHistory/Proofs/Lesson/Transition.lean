-- What a move does when the store may fail. A move to a task that is there is always made. What
-- could be stored of the learner's edits, and what could be loaded for the target, decides which
-- changes it gives.
import LessonHistory.Proofs.Lesson.Carry
import LessonHistory.Store.Arena

namespace LessonHistory

/-! ## The two tasks of a move -/

theorem Lesson.way_of_move {lesson : Lesson} {direction : Direction} {way : lesson.Move}
    (h : lesson.move direction = .ok way) :
    (way.source : Nat) = lesson.current ∧
      (direction = .next → (way.target : Nat) = lesson.current + 1) ∧
      (direction = .previous → (way.target : Nat) + 1 = lesson.current) := by
  unfold Lesson.move at h
  cases direction with
  | next =>
    simp only at h
    split at h
    · cases h
      simp
    · cases h
  | previous =>
    simp only at h
    split at h
    · rename_i hcurrent
      cases h
      refine ⟨rfl, nofun, ?_⟩
      intro _
      show lesson.current - 1 + 1 = _
      omega
    · cases h

/-- A lesson of two tasks, of which the second has a file more. -/
def Lesson.twoStages (kind : LessonKind) : Lesson :=
  .ofTasks "two stages" kind .noTests
    [⟨"first", 1, .ofList [("a", "x")], none⟩,
      ⟨"second", 2, .ofList [("a", "x"), ("b", "y")], none⟩]

theorem Lesson.record_twoStages (kind : LessonKind) :
    ∀ task ∈ (twoStages kind).tasks, task.record = none := by
  cases kind with
  | template => decide
  | staged => decide

namespace Lesson.Move

variable {lesson : Lesson} {direction : Direction} {way : lesson.Move}

def leaves (way : lesson.Move) : Task := lesson.tasks.get way.source

def enters (way : lesson.Move) : Task := lesson.tasks.get way.target

theorem getElem_source (way : lesson.Move) (h : way.source < lesson.tasks.length) :
    getElem lesson.tasks way.source h = way.leaves := rfl

theorem getElem_target (way : lesson.Move) (h : way.target < lesson.tasks.length) :
    getElem lesson.tasks way.target h = way.enters := rfl

theorem leaves_eq (way : lesson.Move) :
    lesson.tasks[(way.source : Nat)]? = some way.leaves :=
  List.getElem?_eq_getElem way.source.isLt

theorem enters_eq (way : lesson.Move) :
    lesson.tasks[(way.target : Nat)]? = some way.enters :=
  List.getElem?_eq_getElem way.target.isLt

theorem source_ne_target (h : lesson.move direction = .ok way) :
    (way.source : Nat) ≠ way.target := by
  obtain ⟨hsource, hnext, hprevious⟩ := way_of_move h
  cases direction with
  | next =>
    have := hnext rfl
    omega
  | previous =>
    have := hprevious rfl
    omega

theorem currentTask?_eq (h : lesson.move direction = .ok way) :
    lesson.currentTask? = some way.leaves := by
  unfold Lesson.currentTask?
  rw [← (way_of_move h).1]
  exact way.leaves_eq

/-- The lesson after a move, when the task that is left has become `saved`. -/
def crossed (way : lesson.Move) (saved : Task) (changes : List Change) : Lesson :=
  { lesson with
    current := way.target
    tasks := (lesson.tasks.set way.source saved).set way.target
      { way.enters with files := way.enters.files.replayStructural changes } }

/-- What is reported of the move: the new current task, the task that is left, and the one that is
entered if it is given other files. -/
def reports (way : lesson.Move) (saved : Task) (changes : List Change) : List MetadataEvent :=
  [.lesson lesson.name way.target, .task saved] ++
    if changes.any Change.isStructural then
      [.task { way.enters with files := way.enters.files.replayStructural changes }] else []

theorem getElem?_crossed (h : lesson.move direction = .ok way) (saved : Task)
    (changes : List Change) (i : Nat) :
    (way.crossed saved changes).tasks[i]? = if i = way.target then
        some { way.enters with files := way.enters.files.replayStructural changes }
      else if i = way.source then some saved else lesson.tasks[i]? := by
  have hne := source_ne_target h
  unfold crossed
  simp only [List.getElem?_set, List.length_set, Fin.isLt, if_true]
  by_cases htarget : i = way.target
  · simp [htarget]
  · by_cases hsource : i = way.source
    · simp [hsource, hne, hne.symm]
    · simp [htarget, hsource, Ne.symm htarget, Ne.symm hsource]

theorem crossed_of_not_structural (h : lesson.move direction = .ok way) (saved : Task)
    {changes : List Change} (hplain : changes.any Change.isStructural = false) :
    way.crossed saved changes
      = { lesson with current := way.target }.withTask way.source saved := by
  have hsame : way.enters.files.replayStructural changes = way.enters.files := by
    unfold FileState.replayStructural
    rw [List.filter_eq_nil_iff.2 (List.any_eq_false.1 hplain), FileState.replay_nil]
  have htarget : (lesson.tasks.set way.source saved)[(way.target : Nat)]? = some way.enters := by
    rw [List.getElem?_set_ne (source_ne_target h)]
    exact way.enters_eq
  obtain ⟨hlt, hget⟩ := List.getElem?_eq_some_iff.1 htarget
  unfold crossed Lesson.withTask
  rw [hsame, ← hget, List.set_getElem_self]

end Lesson.Move

namespace Navigator

variable {σ : Type} [ChangeLog σ] {lesson : Lesson} {store after : σ} {direction : Direction}
  {onDisk : FileState} {resolver : Resolver} {task : Task}

/-! ## Storing and loading -/

theorem saveEdits_of_ok {given : Record}
    (h : ChangeLog.updateAndForce store task.record (task.files.diff onDisk) = (.ok given, after)) :
    saveEdits store task onDisk
      = ({ task with record := some given }, after, task.files.diff onDisk, []) := by
  unfold saveEdits
  simp only [h]

theorem saveEdits_of_error {error : StoreError}
    (h : ChangeLog.updateAndForce store task.record (task.files.diff onDisk)
      = (.error error, after)) :
    saveEdits store task onDisk
      = (task, after, [], [storeNotice "failed to save user changes" task error]) := by
  unfold saveEdits
  simp only [h]

/-- The files of a task with what is stored for it, or its own files where that cannot be read. -/
def filesOf (store : σ) (task : Task) : FileState :=
  match ChangeLog.changes store task.record with
  | .ok stored => task.files.replay stored
  | .error _ => task.files

theorem filesOf_of_ok {stored : List Change}
    (h : ChangeLog.changes store task.record = .ok stored) :
    filesOf store task = task.files.replay stored := by
  unfold filesOf
  rw [h]

theorem replay_loadChanges (store : σ) (task : Task) :
    task.files.replay (loadChanges store task).1 = filesOf store task := by
  unfold loadChanges filesOf
  cases ChangeLog.changes store task.record with
  | ok stored => rfl
  | error error => rfl

/-! ## Moves -/

theorem transition_of_error {error : NavError} (h : lesson.move direction = .error error)
    (store : σ) (onDisk : FileState) (resolver : Resolver) :
    transition lesson store direction onDisk resolver = .error error := by
  unfold transition
  rw [h]
  rfl

theorem transition_eq {way : lesson.Move} {saved : Task} {edits : List Change}
    {notices : List Notice} (h : lesson.move direction = .ok way)
    (hsave : saveEdits store way.leaves onDisk = (saved, after, edits, notices))
    (resolver : Resolver) :
    let propagation := changesBetween lesson direction way.leaves way.enters
      (way.leaves.files.replay edits) (filesOf after way.enters) resolver
    transition lesson store direction onDisk resolver
      = .ok ⟨way.crossed saved propagation.changes, after, propagation.changes, propagation.asked,
        way.reports saved propagation.changes, notices ++ (loadChanges after way.enters).2⟩ := by
  intro propagation
  unfold transition Lesson.Move.reports
  simp only [h, bind, Except.bind, Lesson.Move.getElem_source, Lesson.Move.getElem_target, hsave,
    replay_loadChanges]
  cases hstructural : propagation.changes.any Change.isStructural with
  | true =>
    simp only [if_true]
    rfl
  | false =>
    rw [Lesson.Move.crossed_of_not_structural h saved hstructural]
    simp only [Bool.false_eq_true, if_false]
    rfl

/-- A move in which the store does not fail stores the edits, and reads what is stored for the
target. -/
theorem exists_stored_of_notices {way : lesson.Move} {passed : Transition σ}
    (h : lesson.move direction = .ok way)
    (hmade : transition lesson store direction onDisk resolver = .ok passed)
    (hsteady : passed.notices = []) :
    ∃ given after stored, ChangeLog.updateAndForce store way.leaves.record
        (way.leaves.files.diff onDisk) = (.ok given, after) ∧
      ChangeLog.changes after way.enters.record = .ok stored := by
  rcases hwritten : ChangeLog.updateAndForce store way.leaves.record
    (way.leaves.files.diff onDisk) with ⟨_ | given, after⟩
  · rw [transition_eq h (saveEdits_of_error hwritten) resolver] at hmade
    cases hmade
    cases hsteady
  · refine ⟨given, after, ?_⟩
    rw [transition_eq h (saveEdits_of_ok hwritten) resolver] at hmade
    cases hmade
    rw [List.nil_append] at hsteady
    unfold loadChanges at hsteady
    cases hread : ChangeLog.changes after way.enters.record with
    | error error =>
      simp only [hread] at hsteady
      cases hsteady
    | ok stored => exact ⟨stored, rfl, rfl⟩

theorem changesBetween_plain (hplain : lesson.kind = .template ∨ direction = .previous)
    (source target : Task) (current goal : FileState) (resolver : Resolver) :
    changesBetween lesson direction source target current goal resolver
      = ⟨current.diff goal, []⟩ := by
  unfold changesBetween
  rw [if_neg]
  rintro ⟨rfl, hstaged⟩
  rcases hplain with hkind | hdirection
  · rw [hstaged] at hkind
    cases hkind
  · cases hdirection

/-! ## Edits that are not stored -/

/-- Whether the store takes what the learner did in a task whose files on disk are `onDisk`. -/
def saves (store : σ) (task : Task) (onDisk : FileState) : Bool :=
  (ChangeLog.updateAndForce store task.record (task.files.diff onDisk)).1.isOk

/-- The changes of a move start from the files on disk, but where these could not be stored they
start from the files that the task itself has. -/
theorem changes_of_transition {passed : Transition σ}
    (hplain : lesson.kind = .template ∨ direction = .previous)
    (hmade : transition lesson store direction onDisk resolver = .ok passed) :
    ∃ way, lesson.move direction = .ok way ∧ passed.changes
      = (if saves store way.leaves onDisk then onDisk else way.leaves.files).diff
        (filesOf passed.store way.enters) := by
  cases hway : lesson.move direction with
  | error error =>
    rw [transition_of_error hway] at hmade
    cases hmade
  | ok way =>
    refine ⟨way, rfl, ?_⟩
    unfold saves
    rcases hwritten : ChangeLog.updateAndForce store way.leaves.record
      (way.leaves.files.diff onDisk) with ⟨_ | given, after⟩
    · rw [transition_eq hway (saveEdits_of_error hwritten) resolver,
        changesBetween_plain hplain] at hmade
      cases hmade
      rfl
    · rw [transition_eq hway (saveEdits_of_ok hwritten) resolver, changesBetween_plain hplain,
        FileState.replay_diff] at hmade
      cases hmade
      rfl

/-- The changes of a move that carries no files along bring the files on disk to those of the
target if these were stored. If they were not, the changes leave every file alone of which the
two tasks have the same text, also when the learner has edited it. -/
theorem a_move_leads_to_the_target_just_when_no_unsaved_edit_stays {passed : Transition σ}
    (hplain : lesson.kind = .template ∨ direction = .previous)
    (hmade : transition lesson store direction onDisk resolver = .ok passed) :
    ∃ way, lesson.move direction = .ok way ∧
      (onDisk.replay passed.changes = filesOf passed.store way.enters ↔
        saves store way.leaves onDisk = true ∨
        ∀ path, way.leaves.files.get? path = (filesOf passed.store way.enters).get? path →
          onDisk.get? path = (filesOf passed.store way.enters).get? path) ∧
      ∀ path, (onDisk.replay passed.changes).get? path
        = if saves store way.leaves onDisk = false ∧
            way.leaves.files.get? path = (filesOf passed.store way.enters).get? path
          then onDisk.get? path else (filesOf passed.store way.enters).get? path := by
  obtain ⟨way, hway, hchanges⟩ := changes_of_transition hplain hmade
  have hreplay : ∀ path, (onDisk.replay passed.changes).get? path
      = if saves store way.leaves onDisk = false ∧
          way.leaves.files.get? path = (filesOf passed.store way.enters).get? path
        then onDisk.get? path else (filesOf passed.store way.enters).get? path := by
    intro path
    rw [hchanges]
    cases hsaves : saves store way.leaves onDisk with
    | true => simp [FileState.replay_diff]
    | false => simp [FileState.get?_replay_diff]
  refine ⟨way, hway, ⟨?_, ?_⟩, hreplay⟩
  · intro hleads
    cases hsaves : saves store way.leaves onDisk with
    | true => exact .inl rfl
    | false =>
      refine .inr ?_
      intro path hsame
      have hpath := hreplay path
      rw [if_pos ⟨hsaves, hsame⟩, hleads] at hpath
      exact hpath.symm
  · intro hsafe
    ext1 path
    rw [hreplay]
    split
    · rename_i hunsaved
      rcases hsafe with hsaves | hsame
      · rw [hsaves] at hunsaved
        cases hunsaved.1
      · exact hsame path hunsaved.2
    · rfl

/-- An edit that was stored does not stay. -/
theorem a_stored_edit_gives_way_to_the_target :
    ∃ passed, transition (.twoStages .template) Arena.empty .next (.ofList [("a", "z")])
        (.always .keep) = .ok passed ∧
      (FileState.ofList [("a", "z")]).replay passed.changes = .ofList [("a", "x"), ("b", "y")] := by
  have hmade : transition (.twoStages .template) Arena.empty .next (.ofList [("a", "z")])
    (.always .keep) = .ok _ := rfl
  obtain ⟨way, hway, hleads, -⟩ :=
    a_move_leads_to_the_target_just_when_no_unsaved_edit_stays (.inl rfl) hmade
  cases hway
  exact ⟨_, hmade, hleads.2 (.inl rfl)⟩

/-- An edit that could not be stored turns up in the next task, which has the file as it was. -/
theorem an_unsaved_edit_stays_where_the_tasks_agree :
    ∃ passed way, transition (.twoStages .template) (⟨.empty, { write := true }⟩ : SwitchedArena)
        .next (.ofList [("a", "z")]) (.always .keep) = .ok passed ∧
      (Lesson.twoStages .template).move .next = .ok way ∧
      (FileState.ofList [("a", "z")]).replay passed.changes = .ofList [("a", "z"), ("b", "y")] ∧
      filesOf passed.store way.enters = .ofList [("a", "x"), ("b", "y")] := by
  refine ⟨_, _, rfl, rfl, ?_, ?_⟩
  · decide
  · decide

end Navigator

end LessonHistory
