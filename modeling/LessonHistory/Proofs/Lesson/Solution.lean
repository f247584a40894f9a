-- Solutions from elsewhere. Of a solution only the task files count: what is stored for it brings
-- the files of the task to these and keeps the tests of the task, whatever files the solution has.
-- Nothing else in the store is altered, and nothing at all if the store refuses.
import LessonHistory.Proofs.Lesson.Split
import LessonHistory.Proofs.Lesson.Work
import LessonHistory.Proofs.Store.Intact

namespace LessonHistory

namespace Navigator

variable {σ : Type} [ChangeLog σ] {task : Task} {classifier : Classifier} {solution : FileState}

theorem isTest_of_mem_solving {change : Change} (h : change ∈ solving task classifier solution) :
    classifier.isTest change.path = false := by
  unfold solving Classifier.taskFiles at h
  rw [← FileState.filter_diff] at h
  simpa using (List.mem_filter.1 h).2

/-- The changes for a solution leave the tests as they are and bring all else to the solution. -/
theorem get?_replay_solving (task : Task) (classifier : Classifier) (solution : FileState)
    (path : String) :
    (task.files.replay (solving task classifier solution)).get? path
      = if classifier.isTest path then task.files.get? path else solution.get? path := by
  unfold solving
  rw [FileState.get?_replay_diff]
  simp only [Classifier.taskFiles, FileState.get?_filter]
  cases classifier.isTest path with
  | true => simp
  | false =>
    by_cases hsame : task.files.get? path = solution.get? path
    · simp [hsame]
    · simp [hsame]

/-- A solution from elsewhere is stored for its task files only, and nothing is reported just when
the store takes it. What is stored for the task then, replayed on the files of the task, gives the
task files of the solution and the tests of the task; no test is named in it, the files of the task
are the same, and so is what is stored under any other record. If it cannot be stored, the task and
the store are as they were. -/
theorem a_solution_is_stored_for_the_task_files_only [IntactLog σ] {store : σ}
    (hintact : IntactLog.Intact store) (task : Task) (classifier : Classifier)
    (solution : FileState) :
    let saved := saveExternal store task classifier solution
    IntactLog.Intact saved.store ∧
    (saved.notices = [] ↔
      (ChangeLog.update store task.record (solving task classifier solution)).1.isOk = true) ∧
    (saved.notices = [] → ∃ given stored,
      Record.claim (ChangeLog.count store) task.record = .ok given ∧
      saved.task = { task with record := some given } ∧
      ChangeLog.changes saved.store saved.task.record = .ok stored ∧
      (∀ path, (task.files.replay stored).get? path
        = if classifier.isTest path then task.files.get? path else solution.get? path) ∧
      (∀ change ∈ stored, classifier.isTest change.path = false) ∧
      ∀ other, other ≠ given →
        ChangeLog.changes saved.store (some other) = ChangeLog.changes store (some other)) ∧
    (saved.notices ≠ [] → saved.task = task ∧ saved.store = store) := by
  intro saved
  rcases hupdate : ChangeLog.update store task.record (solving task classifier solution)
    with ⟨error | given, after⟩
  all_goals obtain ⟨hstore, htask, hnotices⟩ := saveExternal_of_update hupdate
  · obtain rfl := IntactLog.eq_of_update_error hintact hupdate
    refine ⟨by rw [hstore]; exact hintact, hnotices, ?_, fun _ => ⟨htask, hstore⟩⟩
    intro hquiet
    cases hnotices.1 hquiet
  · obtain ⟨hclaim, hafter, hchanges⟩ := IntactLog.of_update_ok hintact hupdate
    refine ⟨by rw [hstore]; exact hafter, hnotices, ?_,
      fun hnoisy => absurd (hnotices.2 rfl) hnoisy⟩
    intro _
    refine ⟨given, solving task classifier solution, hclaim, htask, ?_,
      get?_replay_solving task classifier solution, fun _ h => isTest_of_mem_solving h, ?_⟩
    · rw [hstore, htask]
      exact (hchanges given).trans (if_pos rfl)
    · intro other hother
      rw [hstore]
      exact (hchanges other).trans (if_neg hother)

/-- A solution with a test of its own is stored in a log without it, and not at all where the file
of the log may not grow. -/
theorem a_test_in_a_solution_is_not_stored :
    let log : FileLog := ⟨{ nodes := [(["log"], .file Journal.header)] }, "log", .linked ["log"],
      ⟨[], 5⟩⟩
    let task : Task := ⟨"first", 1, .ofList [("src/a", "stub"), ("test/a", "check")], none⟩
    let classifier : Classifier := ⟨["test/"], none⟩
    let solution := FileState.ofList [("src/a", "done"), ("src/b", "more"), ("test/a", "pass")]
    let saved := saveExternal log task classifier solution
    let refused := saveExternal (log.limitedTo (some 9)) task classifier solution
    (∃ stored, saved.store.changes (some .first) = .ok stored ∧
      (task.files.replay stored).get? "src/b" = some "more" ∧
      (task.files.replay stored).get? "test/a" = some "check") ∧
    refused.task = task ∧ refused.store = log.limitedTo (some 9) := by
  intro log task classifier solution saved refused
  have hopen : (FileLog.openPath { nodes := [] } "log").result = .ok log := rfl
  have hintact : IntactLog.Intact log := FileLog.Reached.opened hopen
  have hlimited : IntactLog.Intact (log.limitedTo (some 9)) :=
    FileLog.Reached.limited (.opened hopen) _
  constructor
  · obtain ⟨given, stored, hclaim, htask, hread, hreplay, -, -⟩ :=
      (a_solution_is_stored_for_the_task_files_only hintact task classifier solution).2.2.1
        (by decide +kernel)
    cases hclaim
    rw [htask] at hread
    exact ⟨stored, hread, hreplay "src/b", hreplay "test/a"⟩
  · exact (a_solution_is_stored_for_the_task_files_only hlimited task classifier solution).2.2.2
      (by decide +kernel)

end Navigator

end LessonHistory
