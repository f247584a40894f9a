-- What moves bring back. In a template every move brings back the files that the task had when
-- it was last left, and none of another task. In either kind of lesson a move followed by the
-- opposite one restores the workspace, unless the learner has a task replaced.
import LessonHistory.Proofs.Lesson.Steady

namespace LessonHistory

def Direction.opposite : Direction → Direction
  | next => previous
  | previous => next

namespace Session

variable {σ : Type} [ChangeLog σ] {s : Session σ} {direction : Direction}

/-! ## Templates -/

theorem Run.template {initial : Session σ} (hrun : initial.Run s)
    (hkind : initial.lesson.kind = .template) :
    s.lesson.kind = .template ∧
      ∀ i : Nat, s.lesson.tasks[i]?.map Task.files = initial.lesson.tasks[i]?.map Task.files := by
  induction hrun with
  | start => exact ⟨hkind, fun i => rfl⟩
  | @move s before direction resolver steady ih =>
    obtain ⟨hkind, hfiles⟩ := ih
    rcases s.move_cases direction resolver steady with ⟨error, -, -, hsame⟩ | ⟨⟨c⟩⟩
    · rw [hsame]
      exact ⟨hkind, hfiles⟩
    · rw [c.move_eq]
      refine ⟨hkind, ?_⟩
      intro i
      have hentered : (c.entered resolver).files = c.way.enters.files := by
        have hdiff : (c.propagation resolver).changes = s.onDisk.diff c.goal := by
          unfold Crossing.propagation Navigator.changesBetween
          rw [hkind]
          simp
        unfold Crossing.entered
        rw [hdiff, FileState.replayStructural_diff]
      show (c.after resolver).tasks[i]?.map Task.files = _
      rw [c.getElem?_after, ← hfiles]
      split
      · rename_i htarget
        rw [htarget, c.way.enters_eq]
        exact congrArg some hentered
      · split
        · rename_i hsource
          rw [hsource, c.way.leaves_eq]
          rfl
        · rfl
  | edit before path text? own ih => exact ih

theorem isCanonical_eq_of_files {lesson other : Lesson}
    (h : ∀ i : Nat, lesson.tasks[i]?.map Task.files = other.tasks[i]?.map Task.files) :
    lesson.isCanonical = other.isCanonical := by
  have hmap : lesson.tasks.map Task.files = other.tasks.map Task.files := by
    apply List.ext_getElem?
    intro i
    rw [List.getElem?_map, List.getElem?_map]
    exact h i
  funext path
  have hany : ∀ lesson : Lesson, lesson.isCanonical path
      = (lesson.tasks.map Task.files).any (·.contains path) := by
    intro lesson
    rw [List.any_map]
    rfl
  rw [hany, hany, hmap]

/-! ## Ways back -/

theorem Crossing.exists_way_back (c : s.Crossing direction) (resolver : Resolver) :
    ∃ way, (s.move direction resolver).lesson.move direction.opposite = .ok way := by
  obtain ⟨hsource, hnext, hprevious⟩ := Lesson.way_of_move c.way_eq
  have hlength : (c.after resolver).tasks.length = s.lesson.tasks.length := by
    unfold after
    simp
  rw [c.move_eq]
  show ∃ way, (c.after resolver).move direction.opposite = .ok way
  have hcurrent : (c.after resolver).current = c.way.target := rfl
  have htarget := c.way.target.isLt
  have hin := c.way.source.isLt
  cases direction with
  | next =>
    have hstep := hnext rfl
    unfold Lesson.move Direction.opposite
    simp only
    rw [dif_pos (by omega)]
    exact ⟨_, rfl⟩
  | previous =>
    have hstep := hprevious rfl
    unfold Lesson.move Direction.opposite
    simp only
    rw [dif_pos (by omega)]
    exact ⟨_, rfl⟩

theorem Crossing.target_of_way_back {resolver : Resolver} (c : s.Crossing direction)
    (c' : (s.move direction resolver).Crossing direction.opposite) :
    (c'.way.target : Nat) = c.way.source := by
  obtain ⟨hsource, hnext, hprevious⟩ := Lesson.way_of_move c.way_eq
  obtain ⟨hsource', hnext', hprevious'⟩ := Lesson.way_of_move c'.way_eq
  have hcurrent : (s.move direction resolver).lesson.current = c.way.target := by
    rw [c.move_eq]
    rfl
  rw [hcurrent] at hnext' hprevious'
  cases direction with
  | next =>
    have := hnext rfl
    have := hprevious' rfl
    omega
  | previous =>
    have := hprevious rfl
    have := hnext' rfl
    omega

theorem Crossing.record_of_way_back {resolver : Resolver} (c : s.Crossing direction)
    (c' : (s.move direction resolver).Crossing direction.opposite) :
    c'.way.enters.record = some c.given := by
  have hsource : (s.move direction resolver).lesson.tasks[(c'.way.target : Nat)]?
      = some c.departed := by
    rw [c.target_of_way_back c', c.move_eq]
    exact (c.getElem?_after resolver c.way.source).trans
      ((if_neg c.source_ne_target).trans (if_pos rfl))
  rw [c'.way.enters_eq] at hsource
  rw [Option.some.inj hsource]
  rfl

variable [FaithfulLog σ] {arena : Arena}

/-! ## What moves bring back -/

/-- After a move in a template the workspace has, of all files of tasks, exactly those that the
task that is entered had when it was last left. No move touches any other file. -/
theorem a_template_brings_back_what_was_left {lesson : Lesson} {store : σ}
    {workspace : MemoryWorkspace} (hkind : lesson.kind = .template)
    (hbegins : lesson.Begins workspace) (hholds : FaithfulLog.Holds store arena)
    (hrun : (start lesson store workspace).Run s) {direction : Direction} {resolver : Resolver}
    (hsteady : (s.passage direction resolver).notices = []) :
    (s.move direction resolver).lesson.isCanonical = lesson.isCanonical ∧
      ((s.passage direction resolver).result.isOk = true →
        (s.move direction resolver).workspace.files.filter lesson.isCanonical
          = s.left (s.move direction resolver).lesson.current) ∧
      ∀ path, lesson.isCanonical path = false →
        (s.move direction resolver).workspace.files.get? path = s.workspace.files.get? path := by
  obtain ⟨arena, hsound⟩ := hrun.sound (sound_start hbegins hholds)
  have hnever : s.lesson.kind ≠ .staged := by
    rw [(hrun.template hkind).1]
    exact nofun
  have hfiles := ((hrun.move direction resolver hsteady).template hkind).2
  refine ⟨isCanonical_eq_of_files hfiles, ?_, ?_⟩
  · intro hmade
    rcases s.move_cases direction resolver hsteady with ⟨error, -, hrefused, -⟩ | ⟨⟨c⟩⟩
    · rw [hrefused] at hmade
      cases hmade
    · have hcurrent : (s.move direction resolver).lesson.current = c.way.target := by
        rw [c.move_eq]
        rfl
      rw [hcurrent, ← c.goal_eq hsound]
      ext1 path
      rw [FileState.get?_filter]
      split
      · rename_i hcanonical
        rw [c.get?_workspace hsound hcanonical]
        exact congrArg (·.get? path) (Navigator.replay_changesBetween fun _ h => absurd h hnever)
      · rename_i hother
        exact (c.get?_goal_of_not_canonical hsound ((Bool.not_eq_true _).mp hother)).symm
  · intro path hother
    rcases s.move_cases direction resolver hsteady with ⟨error, -, -, hsame⟩ | ⟨⟨c⟩⟩
    · rw [hsame]
    · exact c.get?_workspace_of_not_canonical hsound hother

/-- A lesson of two tasks with a file each. -/
def twoTasks (kind : LessonKind) : Lesson :=
  .ofTasks "two tasks" kind .noTests
    [⟨"first", 1, .ofList [("a", "x")], none⟩, ⟨"second", 2, .ofList [("b", "y")], none⟩]

/-- The work on the two tasks after a file of the first was edited. -/
def edited (kind : LessonKind) : Session Arena :=
  (start (twoTasks kind) .empty ⟨.ofList [("a", "x")]⟩).edit "a" (some "z")

theorem begins_twoTasks (kind : LessonKind) :
    (twoTasks kind).Begins ⟨.ofList [("a", "x")]⟩ where
  first := rfl
  unsaved := by
    intro task htask
    simp only [twoTasks, Lesson.ofTasks, List.mapIdx_cons, List.mapIdx_nil, List.mem_cons,
      List.not_mem_nil, or_false] at htask
    rcases htask with rfl | rfl
    · rfl
    · rfl
  own _ _ hpath := hpath

theorem run_edited (kind : LessonKind) :
    (start (twoTasks kind) Arena.empty ⟨.ofList [("a", "x")]⟩).Run (edited kind) :=
  .edit .start "a" (some "z") (.inl rfl)

/-- No move between the two tasks fails: an empty arena has records to spare for both. -/
theorem Run.steady_twoTasks {kind : LessonKind} {s : Session Arena}
    (hrun : (Session.start (twoTasks kind) Arena.empty ⟨.ofList [("a", "x")]⟩).Run s)
    (direction : Direction) (resolver : Resolver) :
    (s.passage direction resolver).notices = [] := by
  have hspare : Arena.empty.slots.length + (twoTasks kind).tasks.length ≤ 4294967296 := by
    simp [Arena.empty, twoTasks, Lesson.ofTasks]
  exact hrun.notices_eq_nil (begins_twoTasks kind) hspare direction resolver

/-- Back on the first task the learner finds the edited file, and the file of the second task is
gone. -/
theorem a_template_brings_back_an_edited_file :
    (((edited .template).move .next (.always .keep)).move .previous
        (.always .keep)).workspace.files.filter (twoTasks .template).isCanonical
      = .ofList [("a", "z")] := by
  have hrun := (run_edited .template).move .next (.always .keep)
    ((run_edited .template).steady_twoTasks _ _)
  have hback := a_template_brings_back_what_was_left rfl (begins_twoTasks .template) rfl hrun
    (hrun.steady_twoTasks .previous (.always .keep))
  exact hback.2.1 rfl

/-- A move and the opposite one right after it restore the workspace, and the current task is
again the one that it was, unless on the way forward the learner has a task replaced. -/
theorem a_move_and_the_opposite_one_restore_the_workspace {lesson : Lesson} {store : σ}
    {workspace : MemoryWorkspace} (hbegins : lesson.Begins workspace)
    (hholds : FaithfulLog.Holds store arena) (hrun : (start lesson store workspace).Run s)
    {direction : Direction} {there back : Resolver}
    (hmade : (s.passage direction there).result.isOk = true)
    (hsteady : (s.passage direction there).notices = [])
    (hsteady' : ((s.move direction there).passage direction.opposite back).notices = [])
    (hkeep : direction = .previous →
      ∀ conflict ∈ ((s.move direction there).passage direction.opposite back).asked,
        back conflict ≠ .replace) :
    ((s.move direction there).passage direction.opposite back).result.isOk = true ∧
      ((s.move direction there).move direction.opposite back).workspace = s.workspace ∧
      ((s.move direction there).move direction.opposite back).lesson.current
        = s.lesson.current := by
  obtain ⟨arena, hsound⟩ := hrun.sound (sound_start hbegins hholds)
  rcases s.move_cases direction there hsteady with ⟨error, -, hrefused, -⟩ | ⟨⟨c⟩⟩
  · rw [hrefused] at hmade
    cases hmade
  obtain ⟨way, hway⟩ := c.exists_way_back there
  rcases (s.move direction there).move_cases direction.opposite back hsteady' with
    ⟨error, hrefused, -, -⟩ | ⟨⟨c'⟩⟩
  · rw [hway] at hrefused
    cases hrefused
  obtain ⟨events, hpassage⟩ := c'.passage_eq back
  have hsound' := c.sound_move hsound there
  have htarget := c.target_of_way_back c'
  refine ⟨?_, ?_, ?_⟩
  · rw [hpassage]
    rfl
  · have hfiles : ((s.move direction there).move direction.opposite back).workspace.files
        = s.workspace.files := by
      ext1 path
      cases hpath : lesson.isCanonical path with
      | false =>
        rw [c'.get?_workspace_of_not_canonical hsound' hpath,
          c.get?_workspace_of_not_canonical hsound hpath]
      | true =>
        have hgoal : c'.goal = s.onDisk := by
          rw [c'.goal_eq hsound', htarget, c.move_eq, c.source_eq_current]
          exact if_pos rfl
        -- The task that is entered on the way back has just got a record, so nothing is carried
        -- along but by a replacement.
        have hreplay : (s.move direction there).onDisk.replay (c'.propagation back).changes
            = c'.goal := by
          refine Navigator.replay_changesBetween fun hnext _ => ⟨?_, ?_⟩
          · rw [c.record_of_way_back c']
            exact Option.some_ne_none _
          · rw [hpassage] at hkeep
            apply hkeep
            cases direction with
            | next => cases hnext
            | previous => rfl
        rw [c'.get?_workspace hsound' hpath, hreplay, hgoal]
        exact (c.get?_onDisk hsound path).trans (if_pos hpath)
    exact congrArg MemoryWorkspace.mk hfiles
  · rw [c'.move_eq]
    exact htarget.trans c.source_eq_current

/-- In a staged lesson the learner goes on in the second task with the files of the first, goes
back, returns, and keeps the files of the second. -/
theorem a_kept_conflict_restores_the_workspace :
    (((((edited .staged).move .next (.always .keep)).edit "a" (some "w")).move .previous
        (.always .keep)).move .next (.always .keep)).workspace = ⟨.ofList [("a", "w")]⟩ := by
  have hthere := (run_edited .staged).move .next (.always .keep)
    ((run_edited .staged).steady_twoTasks _ _)
  have hrun := hthere.edit "a" (some "w") (.inl rfl)
  have hsteady := hrun.steady_twoTasks .previous (.always .keep)
  have hsteady' := (hrun.move .previous (.always .keep) hsteady).steady_twoTasks .next
    (.always .keep)
  have hback := a_move_and_the_opposite_one_restore_the_workspace (begins_twoTasks .staged) rfl
    hrun rfl hsteady hsteady' fun _ _ _ => nofun
  exact hback.2.1

end Session

end LessonHistory
