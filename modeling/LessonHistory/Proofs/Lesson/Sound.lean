-- What holds of the work on a lesson at any time, whatever the learner does. The stored changes
-- of a task that was left bring back what was captured of it then, the task has the paths of all
-- these files, and of the files of tasks the workspace has only some of the current one.
import LessonHistory.Proofs.Lesson.Session

namespace LessonHistory

namespace Session

variable {σ : Type} [ChangeLog σ] [FaithfulLog σ] {canonical : String → Bool} {s : Session σ}
  {arena : Arena}

/-! ## What holds all the time -/

/-- What holds of the work at any time, when `canonical` are the paths of the tasks at the start
and the store holds what `arena` holds. -/
structure Sound (canonical : String → Bool) (s : Session σ) (arena : Arena) : Prop where
  faithful : FaithfulLog.Holds s.store arena
  known : ∀ (i : Nat) (task : Task) (path : String), s.lesson.tasks[i]? = some task →
    task.files.contains path = true → canonical path = true
  own : ∀ path, canonical path = true → s.workspace.files.contains path = true →
    s.lesson.isCurrent path = true
  issued : ∀ (i : Nat) (task : Task) (record : Record), s.lesson.tasks[i]? = some task →
    task.record = some record → record.index < arena.slots.length
  distinct : ∀ (i j : Nat) (task other : Task) (record : Record), s.lesson.tasks[i]? = some task →
    s.lesson.tasks[j]? = some other → task.record = some record → other.record = some record → i = j
  remembered : ∀ (i : Nat) (task : Task), i ≠ s.lesson.current → s.lesson.tasks[i]? = some task →
    ∃ stored, arena.changes task.record = .ok stored ∧ task.files.replay stored = s.left i
  covered : ∀ (i : Nat) (task : Task) (path : String), i ≠ s.lesson.current →
    s.lesson.tasks[i]? = some task → (s.left i).contains path = true →
      task.files.contains path = true

theorem sound_start {lesson : Lesson} {store : σ} {workspace : MemoryWorkspace}
    (hbegins : lesson.Begins workspace) (hholds : FaithfulLog.Holds store arena) :
    Sound lesson.isCanonical (start lesson store workspace) arena where
  faithful := hholds
  known i task path htask hpath := by
    unfold Lesson.isCanonical
    exact List.any_eq_true.2 ⟨task, List.mem_of_getElem? htask, hpath⟩
  own := hbegins.own
  issued i task record htask hrecord := by
    rw [hbegins.unsaved task (List.mem_of_getElem? htask)] at hrecord
    cases hrecord
  distinct i j task other record htask _ hrecord _ := by
    rw [hbegins.unsaved task (List.mem_of_getElem? htask)] at hrecord
    cases hrecord
  remembered i task _ htask := by
    refine ⟨[], ?_, ?_⟩
    · rw [hbegins.unsaved task (List.mem_of_getElem? htask)]
      rfl
    · show task.files = (lesson.tasks[i]?.map Task.files).getD .empty
      rw [show lesson.tasks[i]? = some task from htask]
      rfl
  covered i task path _ htask hpath := by
    change ((lesson.tasks[i]?.map Task.files).getD .empty).contains path = true at hpath
    rw [show lesson.tasks[i]? = some task from htask] at hpath
    exact hpath

theorem Sound.edit (h : Sound canonical s arena) {path : String}
    (hpath : s.lesson.isCurrent path = true ∨ canonical path = false) (text? : Option String) :
    Sound canonical (s.edit path text?) arena where
  faithful := h.faithful
  known := h.known
  own other hcanonical hcontains := by
    unfold FileState.contains at hcontains
    rw [show (s.edit path text?).workspace = s.workspace.edit path text? from rfl,
      MemoryWorkspace.get?_edit] at hcontains
    split at hcontains
    · rename_i hsame
      rcases hpath with hcurrent | hother
      · exact hsame ▸ hcurrent
      · rw [← hsame, hcanonical] at hother
        cases hother
    · exact h.own other hcanonical hcontains
  issued := h.issued
  distinct := h.distinct
  remembered := h.remembered
  covered := h.covered

/-! ## What a move does -/

namespace Crossing

variable {direction : Direction} {resolver : Resolver}

theorem get?_onDisk (c : s.Crossing direction) (h : s.Sound canonical arena) (path : String) :
    s.onDisk.get? path = if canonical path then s.workspace.files.get? path else none := by
  have hcapture := congrArg (fun captured => captured.1.get? path) (capture_of_move c.way_eq)
  simp only [MemoryWorkspace.get?_capture, FileState.mem_paths_iff] at hcapture
  rw [← hcapture]
  by_cases hcurrent : c.way.leaves.files.contains path = true
  · rw [if_pos hcurrent, if_pos (h.known _ _ _ c.way.leaves_eq hcurrent)]
  · rw [if_neg hcurrent]
    split
    · rename_i hcanonical
      -- A file of another task would be left unseen, but there is none in the workspace.
      by_cases hcontains : s.workspace.files.contains path = true
      · have hown := h.own path hcanonical hcontains
        rw [c.isCurrent_eq] at hown
        exact absurd hown hcurrent
      · exact (FileState.not_contains_iff.1 ((Bool.not_eq_true _).mp hcontains)).symm
    · rfl

theorem record_ne_given (c : s.Crossing direction) (h : s.Sound canonical arena) {i : Nat}
    {task : Task} (hi : i ≠ c.way.source) (htask : s.lesson.tasks[i]? = some task) :
    task.record ≠ some c.given := by
  intro hrecord
  obtain ⟨next, hupdate, -⟩ := FaithfulLog.updateAndForce_eq h.faithful c.written
  rcases Record.claim_cases (Arena.claim_of_update hupdate).1 with ⟨hold, -⟩ | ⟨-, hnew⟩
  · exact hi (h.distinct _ _ _ _ _ htask c.way.leaves_eq hrecord hold)
  · have hissued := h.issued _ _ _ htask hrecord
    omega

theorem exists_saved (c : s.Crossing direction) (h : s.Sound canonical arena) :
    FaithfulLog.Holds c.saved
        (arena.put (c.given, c.way.leaves.files.diff s.onDisk)) ∧
      c.given.index ≤ arena.slots.length := by
  obtain ⟨next, hupdate, hholds⟩ := FaithfulLog.updateAndForce_eq h.faithful c.written
  obtain ⟨hclaim, rfl⟩ := Arena.claim_of_update hupdate
  exact ⟨hholds, Record.index_le_of_claim hclaim⟩

theorem changes_saved (c : s.Crossing direction) (h : s.Sound canonical arena) {i : Nat}
    {task : Task} (hi : i ≠ c.way.source) (htask : s.lesson.tasks[i]? = some task) :
    (arena.put (c.given, c.way.leaves.files.diff s.onDisk)).changes task.record
      = arena.changes task.record := by
  have hne := c.record_ne_given h hi htask
  cases hrecord : task.record with
  | none => rfl
  | some record =>
    rw [Arena.changes_put (c.exists_saved h).2, if_neg]
    rintro rfl
    exact hne hrecord

/-- A move leads to what was captured when its target was last left. -/
theorem goal_eq (c : s.Crossing direction) (h : s.Sound canonical arena) :
    c.goal = s.left c.way.target := by
  have hread := FaithfulLog.changes_eq (c.exists_saved h).1 c.read
  rw [c.changes_saved h c.source_ne_target.symm c.way.enters_eq] at hread
  obtain ⟨stored, hstored, hreplay⟩ := h.remembered _ _ c.target_ne_current c.way.enters_eq
  rw [hread] at hstored
  cases hstored
  exact hreplay

theorem contains_enters_of_goal (c : s.Crossing direction) (h : s.Sound canonical arena)
    (path : String) (hpath : c.goal.contains path = true) :
    c.way.enters.files.contains path = true := by
  rw [c.goal_eq h] at hpath
  exact h.covered _ _ _ c.target_ne_current c.way.enters_eq hpath

theorem get?_goal_of_not_canonical (c : s.Crossing direction) (h : s.Sound canonical arena)
    {path : String} (hpath : canonical path = false) : c.goal.get? path = none := by
  rw [← FileState.not_contains_iff]
  by_cases hgoal : c.goal.contains path = true
  · have hknown := h.known _ _ _ c.way.enters_eq (c.contains_enters_of_goal h path hgoal)
    rw [hpath] at hknown
    cases hknown
  · exact (Bool.not_eq_true _).mp hgoal

/-- Of the files of tasks the workspace then has what the changes make of the captured ones. -/
theorem get?_workspace (c : s.Crossing direction) (h : s.Sound canonical arena) {path : String}
    (hpath : canonical path = true) :
    (s.move direction resolver).workspace.files.get? path
      = (s.onDisk.replay (c.propagation resolver).changes).get? path := by
  rw [c.move_eq]
  apply FileState.get?_replay_congr
  rw [c.get?_onDisk h, if_pos hpath]

theorem get?_workspace_of_not_canonical (c : s.Crossing direction) (h : s.Sound canonical arena)
    {path : String} (hpath : canonical path = false) :
    (s.move direction resolver).workspace.files.get? path = s.workspace.files.get? path := by
  rw [c.move_eq]
  apply Navigator.get?_replay_changesBetween_of_none
  · rw [c.get?_onDisk h, hpath]
    rfl
  · exact c.get?_goal_of_not_canonical h hpath

theorem contains_leaves_of_onDisk (c : s.Crossing direction) (h : s.Sound canonical arena)
    {path : String} (hpath : s.onDisk.contains path = true) :
    c.way.leaves.files.contains path = true := by
  unfold FileState.contains at hpath
  rw [c.get?_onDisk h] at hpath
  split at hpath
  · rename_i hcanonical
    rw [← c.isCurrent_eq]
    exact h.own path hcanonical hpath
  · cases hpath

theorem sound_move (c : s.Crossing direction) (h : s.Sound canonical arena)
    (resolver : Resolver) :
    (s.move direction resolver).Sound canonical
      (arena.put (c.given, c.way.leaves.files.diff s.onDisk)) where
  faithful := by
    rw [c.move_eq]
    exact (c.exists_saved h).1
  known i task path htask hpath := by
    rw [c.move_lesson] at htask
    rcases c.after_task_cases htask with ⟨-, rfl⟩ | ⟨-, rfl⟩ | ⟨-, -, hold⟩
    · rcases Navigator.contains_of_contains_replayStructural hpath with hpath | hpath
      · exact h.known _ _ _ c.way.enters_eq hpath
      · exact h.known _ _ _ c.way.leaves_eq (c.contains_leaves_of_onDisk h hpath)
    · exact h.known _ _ _ c.way.leaves_eq hpath
    · exact h.known _ _ _ hold hpath
  own path hcanonical hpath := by
    unfold FileState.contains at hpath
    rw [c.get?_workspace h hcanonical] at hpath
    rw [c.move_lesson, c.isCurrent_after]
    exact Navigator.contains_replayStructural_changesBetween (c.contains_enters_of_goal h) hpath
  issued i task record htask hrecord := by
    rw [c.move_lesson] at htask
    have hle := (c.exists_saved h).2
    rw [Arena.length_put]
    rcases c.record_after htask hrecord with ⟨-, rfl⟩ | ⟨-, old, hold, hrecord⟩
    · split <;> omega
    · have hissued := h.issued _ _ _ hold hrecord
      split <;> omega
  distinct i j task other record htask hother hrecord hrecord' := by
    rw [c.move_lesson] at htask hother
    rcases c.record_after htask hrecord with ⟨hi, hgiven⟩ | ⟨hi, old, hold, hrecord⟩
    · rcases c.record_after hother hrecord' with ⟨hj, -⟩ | ⟨hj, old, hold, hrecord'⟩
      · rw [hi, hj]
      · rw [hgiven] at hrecord'
        exact absurd hrecord' (c.record_ne_given h hj hold)
    · rcases c.record_after hother hrecord' with ⟨hj, hgiven⟩ | ⟨hj, old', hold', hrecord'⟩
      · rw [hgiven] at hrecord
        exact absurd hrecord (c.record_ne_given h hi hold)
      · exact h.distinct _ _ _ _ _ hold hold' hrecord hrecord'
  remembered i task hcurrent htask := by
    rw [c.move_lesson] at hcurrent htask
    rw [c.move_left]
    rcases c.after_task_cases htask with ⟨rfl, -⟩ | ⟨rfl, rfl⟩ | ⟨-, hsource, hold⟩
    · exact absurd rfl hcurrent
    · refine ⟨_, (Arena.changes_put (c.exists_saved h).2 _).trans (if_pos rfl), ?_⟩
      rw [if_pos rfl]
      exact FileState.replay_diff _ _
    · rw [c.changes_saved h hsource hold, if_neg hsource]
      exact h.remembered i task (c.source_eq_current ▸ hsource) hold
  covered i task path hcurrent htask hpath := by
    rw [c.move_lesson] at hcurrent htask
    rw [c.move_left] at hpath
    rcases c.after_task_cases htask with ⟨rfl, -⟩ | ⟨rfl, rfl⟩ | ⟨-, hsource, hold⟩
    · exact absurd rfl hcurrent
    · rw [if_pos rfl] at hpath
      exact c.contains_leaves_of_onDisk h hpath
    · rw [if_neg hsource] at hpath
      exact h.covered i task path (c.source_eq_current ▸ hsource) hold hpath

end Crossing

/-- What holds at the start of some work holds all through it. -/
theorem Run.sound {initial : Session σ} (hrun : initial.Run s)
    (h : initial.Sound initial.lesson.isCanonical arena) :
    ∃ arena, s.Sound initial.lesson.isCanonical arena := by
  induction hrun with
  | start => exact ⟨arena, h⟩
  | @move s before direction resolver steady ih =>
    obtain ⟨arena, hsound⟩ := ih
    rcases s.move_cases direction resolver steady with ⟨error, -, -, hsame⟩ | ⟨⟨c⟩⟩
    · exact ⟨arena, hsame.symm ▸ hsound⟩
    · exact ⟨_, c.sound_move hsound resolver⟩
  | edit before path text? own ih =>
    obtain ⟨arena, hsound⟩ := ih
    exact ⟨arena, hsound.edit own text?⟩

end Session

end LessonHistory
