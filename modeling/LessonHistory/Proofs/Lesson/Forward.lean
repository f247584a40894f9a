-- Moves forward in a staged lesson. What is laid out has the tests of the target and the task files
-- of one side, and the resolver is asked for the side only where both went their own ways. Then the
-- target has all the files that were laid out, so that leaving it loses none of them.
import LessonHistory.Proofs.Lesson.Transition

namespace LessonHistory

namespace Propagation

variable {classifier : Classifier} {current target : FileState} {record : Option Record}
  {conflict : Conflict} {resolver : Resolver}

/-! ## Which side is laid out -/

/-- Whether the target was visited before and has other task files than would be carried into it. -/
def Diverged (classifier : Classifier) (current target : FileState) (record : Option Record) :
    Prop :=
  record ≠ none ∧ classifier.taskFiles current ≠ classifier.taskFiles target

instance : Decidable (Diverged classifier current target record) :=
  inferInstanceAs (Decidable (_ ∧ _))

/-- Whether the target is given the task files that are there: on the first visit, and where the
resolver has them replace those of the target. -/
def Realigns (classifier : Classifier) (current target : FileState) (record : Option Record)
    (conflict : Conflict) (resolver : Resolver) : Prop :=
  record = none ∨
    (Diverged classifier current target record ∧ resolver conflict = .replace)

/-- The target is given the files that are there, or only its tests are laid out, or all of its
files. -/
theorem resolve_cases (classifier : Classifier) (current target : FileState)
    (record : Option Record) (conflict : Conflict) (resolver : Resolver) :
    (Realigns classifier current target record conflict resolver ∧
      resolve classifier current target record conflict resolver
        = ⟨structural classifier current target,
          if Diverged classifier current target record then [conflict] else []⟩ ∧
      ¬ (Diverged classifier current target record ∧ resolver conflict = .keep)) ∨
    (¬ Realigns classifier current target record conflict resolver ∧
      resolve classifier current target record conflict resolver
        = ⟨(classifier.testFiles current).diff (classifier.testFiles target), []⟩ ∧
      ¬ Diverged classifier current target record ∧
      classifier.taskFiles current = classifier.taskFiles target) ∨
    (¬ Realigns classifier current target record conflict resolver ∧
      resolve classifier current target record conflict resolver
        = ⟨current.diff target, [conflict]⟩ ∧
      Diverged classifier current target record ∧ resolver conflict = .keep) := by
  unfold resolve Realigns Diverged
  by_cases hnew : record = none
  · exact .inl (by simp [hnew])
  by_cases hsame : classifier.taskFiles current = classifier.taskFiles target
  · exact .inr (.inl (by simp [hnew, hsame]))
  cases hanswer : resolver conflict with
  | keep => exact .inr (.inr (by simp [hnew, hsame]))
  | replace => exact .inl (by simp [hnew, hsame])

theorem testFiles_replay_structural (classifier : Classifier) (current target : FileState) :
    classifier.testFiles (current.replay (structural classifier current target))
      = classifier.testFiles target := by
  ext1 path
  simp only [Classifier.testFiles, FileState.get?_filter, get?_replay_structural]
  by_cases htest : classifier.isTest path = true <;> simp [htest]

theorem taskFiles_replay_structural (classifier : Classifier) (current target : FileState) :
    classifier.taskFiles (current.replay (structural classifier current target))
      = classifier.taskFiles current := by
  ext1 path
  simp only [Classifier.taskFiles, FileState.get?_filter, get?_replay_structural]
  by_cases htest : classifier.isTest path = true <;> simp [htest]

theorem not_isStructural_of_mem_diff {a b : FileState} {path : String} :
    ¬ ∃ change ∈ a.diff b, change.isStructural = true ∧ change.path = path := by
  rintro ⟨change, hchange, hstructural, -⟩
  rw [(FileState.of_mem_diff hchange).2.2] at hstructural
  cases hstructural

/-- What a move forward lays out has the tests of the target. It has the task files of the target
just when both sides differ and the resolver keeps them, and else those that are there. The resolver
is asked once where both sides differ, and else not at all. Only on the first visit, and where the
resolver replaces them, does the target get other files, and these are the task files that only one
side has. -/
theorem a_move_forward_lays_out_the_task_files_of_one_side (classifier : Classifier)
    (current target : FileState) (record : Option Record) (conflict : Conflict)
    (resolver : Resolver) :
    let propagation := resolve classifier current target record conflict resolver
    let after := current.replay propagation.changes
    classifier.testFiles after = classifier.testFiles target ∧
    classifier.taskFiles after
      = (if Diverged classifier current target record ∧ resolver conflict = .keep
        then classifier.taskFiles target else classifier.taskFiles current) ∧
    propagation.asked
      = (if Diverged classifier current target record then [conflict] else []) ∧
    ∀ path, (∃ change ∈ propagation.changes, change.isStructural = true ∧ change.path = path) ↔
      Realigns classifier current target record conflict resolver ∧
        classifier.isTest path = false ∧ current.contains path ≠ target.contains path := by
  rcases resolve_cases classifier current target record conflict resolver with
    ⟨hrealigns, heq, hcarried⟩ | ⟨hrealigns, heq, hsame, htask⟩ | ⟨hrealigns, heq, hkept⟩
  all_goals simp only [heq]
  · refine ⟨testFiles_replay_structural _ _ _, ?_, trivial, fun path => ⟨?_, ?_⟩⟩
    · rw [if_neg hcarried]
      exact taskFiles_replay_structural _ _ _
    · rintro ⟨change, hchange, hstructural, rfl⟩
      obtain ⟨hpath, hdiffer, -⟩ := of_mem_structural hchange hstructural
      exact ⟨hrealigns, hpath, hdiffer⟩
    · rintro ⟨-, hpath, hdiffer⟩
      exact exists_mem_structural hpath hdiffer
  · rw [replay_testFiles_diff htask, if_neg fun h => hsame h.1, if_neg hsame]
    exact ⟨rfl, htask.symm, rfl, fun path =>
      iff_of_false not_isStructural_of_mem_diff fun h => hrealigns h.1⟩
  · rw [FileState.replay_diff, if_pos hkept, if_pos hkept.1]
    exact ⟨rfl, rfl, rfl, fun path =>
      iff_of_false not_isStructural_of_mem_diff fun h => hrealigns h.1⟩

end Propagation

namespace Navigator

variable {σ : Type} [ChangeLog σ] {lesson : Lesson} {store after : σ} {onDisk : FileState}

/-! ## Which files the target has -/

theorem changesBetween_of_new {source target : Task} (hstaged : lesson.kind = .staged)
    (hnew : target.record = none) (current goal : FileState) (resolver : Resolver) :
    changesBetween lesson .next source target current goal resolver
      = ⟨Propagation.structural lesson.classifier current goal, []⟩ := by
  unfold changesBetween Propagation.resolve
  simp [hstaged, hnew]

/-- Carried along from the files of a task as they are, the files that are laid out are just those
that the task then has. -/
theorem contains_replay_structural_eq (classifier : Classifier) (current files : FileState)
    (path : String) :
    (current.replay (Propagation.structural classifier current files)).contains path
      = (files.replayStructural (Propagation.structural classifier current files)).contains path := by
  have hreplay : (current.replay (Propagation.structural classifier current files)).contains path
      = if classifier.isTest path then files.contains path else current.contains path := by
    unfold FileState.contains
    rw [Propagation.get?_replay_structural]
    split <;> rfl
  rw [hreplay, Propagation.contains_replayStructural_structural_eq]
  by_cases htest : classifier.isTest path = true
  · simp [htest]
  · by_cases hsame : current.contains path = files.contains path
    · simp [htest, hsame]
    · simpa [htest, hsame] using Bool.eq_not_of_ne hsame

/-- A move forward in a staged lesson, in which the edits are stored, gives the target all the files
that it lays out, as long as what was stored for the target named no others than its own. On the
first visit these are all the files that the target then has. A file keeps its text in the target
unless one of the changes that alter the target is about it. -/
theorem after_a_move_forward_the_target_has_what_was_laid_out {way : lesson.Move} {given : Record}
    (hstaged : lesson.kind = .staged) (hway : lesson.move .next = .ok way)
    (hsaved : ChangeLog.updateAndForce store way.leaves.record (way.leaves.files.diff onDisk)
      = (.ok given, after))
    (hgoal : ∀ path, (filesOf after way.enters).contains path = true →
      way.enters.files.contains path = true)
    (hnone : ∀ found, ChangeLog.changes after none = .ok found → found = [])
    (resolver : Resolver) :
    ∃ passed entered, transition lesson store .next onDisk resolver = .ok passed ∧
      passed.lesson.tasks[(way.target : Nat)]? = some entered ∧
      (∀ path, (onDisk.replay passed.changes).contains path = true →
        entered.files.contains path = true) ∧
      (way.enters.record = none → ∀ path,
        (onDisk.replay passed.changes).contains path = entered.files.contains path) ∧
      ∀ path, (∀ change ∈ passed.changes, change.isStructural = true → change.path ≠ path) →
        entered.files.get? path = way.enters.files.get? path := by
  have hmade := transition_eq hway (saveEdits_of_ok hsaved) resolver
  rw [FileState.replay_diff] at hmade
  refine ⟨_, _, hmade, (Lesson.Move.getElem?_crossed hway _ _ _).trans (if_pos rfl), ?_, ?_, ?_⟩
  · intro path hpath
    exact contains_replayStructural_changesBetween hgoal hpath
  · intro hnew path
    have hfiles : filesOf after way.enters = way.enters.files := by
      unfold filesOf
      rw [hnew]
      cases hread : ChangeLog.changes after none with
      | error error => rfl
      | ok found =>
        rw [hnone found hread]
        rfl
    simp only [changesBetween_of_new hstaged hnew, hfiles]
    exact contains_replay_structural_eq _ _ _ path
  · intro path hpath
    apply FileState.get?_replay_of_not_mem
    intro change hchange
    obtain ⟨hmem, hstructural⟩ := List.mem_filter.1 hchange
    exact hpath change hmem hstructural

/-- A file of the learner's own joins the second stage, and files that are gone leave it. -/
theorem the_second_stage_takes_over_which_files_there_are :
    ∃ passed entered, transition (.twoStages .staged) Arena.empty .next (.ofList [("c", "z")])
        (.always .keep) = .ok passed ∧
      passed.lesson.tasks[1]? = some entered ∧ entered.files.paths = ["c"] ∧
      ∀ path, ((FileState.ofList [("c", "z")]).replay passed.changes).contains path
        = entered.files.contains path := by
  obtain ⟨passed, entered, hmade, hentered, -, hsame, -⟩ :=
    @after_a_move_forward_the_target_has_what_was_laid_out Arena _ (.twoStages .staged)
      Arena.empty _ (.ofList [("c", "z")]) _ _ rfl rfl rfl (fun path hpath => hpath)
      (fun found hfound => (Except.ok.inj hfound).symm) (.always .keep)
  refine ⟨passed, entered, hmade, hentered, ?_, hsame rfl⟩
  cases hmade
  cases hentered
  rfl

end Navigator

end LessonHistory
