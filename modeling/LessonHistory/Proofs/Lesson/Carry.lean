-- What the changes of a move make of the learner's files. They bring the files of the goal,
-- unless the move carries the learner's own files along; then the tests are those of the goal
-- and all else stays. Either way every file that is there afterwards is one of the target.
import LessonHistory.Lesson.Navigator
import LessonHistory.Proofs.Lesson.Capture

namespace LessonHistory

namespace Propagation

variable {classifier : Classifier} {current goal : FileState} {path : String}

/-! ## Carrying files along -/

/-- The changes that carry files along: to tests, where these differ, to the files that are new
to the goal, and to the files of the goal that the learner does not have. -/
theorem mem_structural_iff {change : Change} :
    change ∈ structural classifier current goal ↔
      change ∈ (classifier.testFiles current).diff (classifier.testFiles goal) ∨
      (∃ path text, classifier.isTest path = false ∧ current.get? path = some text ∧
        goal.get? path = none ∧ change = .addTaskFile path text) ∨
      (∃ path text, classifier.isTest path = false ∧ goal.get? path = some text ∧
        current.get? path = none ∧ change = .removeTaskFile path) := by
  unfold structural
  rw [List.mem_append, List.mem_append, or_assoc]
  refine or_congr_right (or_congr ?_ ?_)
  · simp only [List.mem_map, List.mem_filter, Prod.exists, FileState.mem_entries_iff,
      Bool.not_eq_true', FileState.not_contains_iff, Classifier.taskFiles, FileState.get?_filter]
    constructor
    · rintro ⟨path, text, ⟨hcurrent, hgoal⟩, rfl⟩
      split at hcurrent
      · rename_i htask
        rw [if_pos htask] at hgoal
        exact ⟨path, text, htask, hcurrent, hgoal, rfl⟩
      · cases hcurrent
    · rintro ⟨path, text, htask, hcurrent, hgoal, rfl⟩
      exact ⟨path, text, ⟨by rw [if_pos htask, hcurrent], by rw [if_pos htask, hgoal]⟩, rfl⟩
  · simp only [List.mem_map, List.mem_filter, FileState.mem_paths_iff, FileState.contains_iff,
      Bool.not_eq_true', FileState.not_contains_iff, Classifier.taskFiles, FileState.get?_filter]
    constructor
    · rintro ⟨path, ⟨⟨text, hgoal⟩, hcurrent⟩, rfl⟩
      split at hgoal
      · rename_i htask
        rw [if_pos htask] at hcurrent
        exact ⟨path, text, htask, hgoal, hcurrent, rfl⟩
      · cases hgoal
    · rintro ⟨path, text, htask, hgoal, hcurrent, rfl⟩
      exact ⟨path, ⟨⟨text, by rw [if_pos htask, hgoal]⟩, by rw [if_pos htask, hcurrent]⟩, rfl⟩

/-- Carrying files along brings the tests of the goal and leaves all else as it is. -/
theorem get?_replay_structural (classifier : Classifier) (current goal : FileState)
    (path : String) :
    (current.replay (structural classifier current goal)).get? path
      = if classifier.isTest path then goal.get? path else current.get? path := by
  by_cases htest : classifier.isTest path = true
  · rw [if_pos htest]
    have hwrites : ∀ change ∈ structural classifier current goal, change.path = path →
        change.text? = goal.get? path := by
      intro change hchange hpath
      rcases mem_structural_iff.1 hchange with h | ⟨other, text, htask, -, -, rfl⟩ |
        ⟨other, text, htask, -, -, rfl⟩
      · have htext := (FileState.of_mem_diff h).2.1
        rw [hpath, Classifier.testFiles, FileState.get?_filter, if_pos htest] at htext
        exact htext
      · obtain rfl : other = path := hpath
        rw [htest] at htask
        cases htask
      · obtain rfl : other = path := hpath
        rw [htest] at htask
        cases htask
    -- A test that is the same on both sides may not be changed at all.
    by_cases hsame : current.get? path = goal.get? path
    · rw [← hsame]
      exact FileState.get?_replay_of_same (hsame ▸ hwrites)
    · refine FileState.get?_replay_of_mem ?_ hwrites current
      have hdiffer : (classifier.testFiles current).get? path
          ≠ (classifier.testFiles goal).get? path := by
        simpa [Classifier.testFiles, htest] using hsame
      obtain ⟨change, hchange, hpath⟩ := FileState.exists_mem_diff hdiffer
      exact ⟨change, mem_structural_iff.2 (.inl hchange), hpath⟩
  · rw [if_neg htest]
    apply FileState.get?_replay_of_same
    intro change hchange hpath
    rcases mem_structural_iff.1 hchange with h | ⟨other, text, -, hcurrent, -, rfl⟩ |
      ⟨other, text, -, -, hcurrent, rfl⟩
    · have hne := (FileState.of_mem_diff h).1
      rw [hpath] at hne
      simp [Classifier.testFiles, htest] at hne
    · obtain rfl : other = path := hpath
      exact hcurrent.symm
    · obtain rfl : other = path := hpath
      exact hcurrent.symm

/-- Where the task files are the same, the tests are all that is to be brought. -/
theorem replay_testFiles_diff (h : classifier.taskFiles current = classifier.taskFiles goal) :
    current.replay ((classifier.testFiles current).diff (classifier.testFiles goal)) = goal := by
  ext1 path
  rw [FileState.get?_replay_diff]
  have hpath := congrArg (·.get? path) h
  simp only [Classifier.taskFiles, Classifier.testFiles, FileState.get?_filter] at hpath ⊢
  by_cases htest : classifier.isTest path = true
  · simp only [htest, if_true]
    split
    · assumption
    · rfl
  · simpa [htest] using hpath

/-! ## The files of the target -/

/-- A change that alters which files the target has is about a file that is no test and that only
one side has, and leaves the file as the learner has it. -/
theorem of_mem_structural {change : Change} (h : change ∈ structural classifier current goal)
    (hstructural : change.isStructural = true) :
    classifier.isTest change.path = false ∧
      current.contains change.path ≠ goal.contains change.path ∧
      change.text? = current.get? change.path := by
  rcases mem_structural_iff.1 h with h | ⟨other, text, htask, hcurrent, hgoal, rfl⟩ |
    ⟨other, text, htask, hgoal, hcurrent, rfl⟩
  · rw [(FileState.of_mem_diff h).2.2] at hstructural
    cases hstructural
  · simp [Change.path, Change.text?, FileState.contains, htask, hcurrent, hgoal]
  · simp [Change.path, Change.text?, FileState.contains, htask, hcurrent, hgoal]

theorem exists_mem_structural (htask : classifier.isTest path = false)
    (hdiffer : current.contains path ≠ goal.contains path) :
    ∃ change ∈ structural classifier current goal,
      change.isStructural = true ∧ change.path = path := by
  cases hcurrent : current.get? path with
  | none =>
    cases hgoal : goal.get? path with
    | none => simp [FileState.contains, hcurrent, hgoal] at hdiffer
    | some text => exact ⟨.removeTaskFile path,
        mem_structural_iff.2 (.inr (.inr ⟨path, text, htask, hgoal, hcurrent, rfl⟩)), rfl, rfl⟩
  | some text =>
    cases hgoal : goal.get? path with
    | none => exact ⟨.addTaskFile path text,
        mem_structural_iff.2 (.inr (.inl ⟨path, text, htask, hcurrent, hgoal, rfl⟩)), rfl, rfl⟩
    | some other => simp [FileState.contains, hcurrent, hgoal] at hdiffer

/-- Which files the target has is altered where only one side has a file that is no test. -/
theorem get?_replayStructural_structural (classifier : Classifier) (current goal files : FileState)
    (path : String) :
    (files.replayStructural (structural classifier current goal)).get? path
      = if classifier.isTest path = false ∧ current.contains path ≠ goal.contains path
        then current.get? path else files.get? path := by
  unfold FileState.replayStructural
  split
  · rename_i h
    apply FileState.get?_replay_of_mem
    · obtain ⟨change, hmem, hstructural, hpath⟩ := exists_mem_structural h.1 h.2
      exact ⟨change, List.mem_filter.2 ⟨hmem, hstructural⟩, hpath⟩
    · intro change hchange hpath
      obtain ⟨hmem, hstructural⟩ := List.mem_filter.1 hchange
      rw [(of_mem_structural hmem hstructural).2.2, hpath]
  · rename_i h
    apply FileState.get?_replay_of_not_mem
    rintro change hchange rfl
    obtain ⟨hmem, hstructural⟩ := List.mem_filter.1 hchange
    obtain ⟨htask, hdiffer, -⟩ := of_mem_structural hmem hstructural
    exact h ⟨htask, hdiffer⟩

theorem contains_replayStructural_structural_eq (classifier : Classifier)
    (current goal files : FileState) (path : String) :
    (files.replayStructural (structural classifier current goal)).contains path
      = if classifier.isTest path = false ∧ current.contains path ≠ goal.contains path
        then !goal.contains path else files.contains path := by
  have hget := get?_replayStructural_structural classifier current goal files path
  split
  · rename_i h
    rw [if_pos h] at hget
    have hsame : (files.replayStructural (structural classifier current goal)).contains path
        = current.contains path := congrArg Option.isSome hget
    rw [hsame]
    exact Bool.eq_not_of_ne h.2
  · rename_i h
    rw [if_neg h] at hget
    exact congrArg Option.isSome hget

theorem contains_replayStructural_structural {files : FileState}
    (hgoal : ∀ path, goal.contains path = true → files.contains path = true)
    (hpath : (current.replay (structural classifier current goal)).contains path = true) :
    (files.replayStructural (structural classifier current goal)).contains path = true := by
  unfold FileState.contains at hpath ⊢
  rw [get?_replay_structural] at hpath
  rw [get?_replayStructural_structural]
  by_cases htest : classifier.isTest path = true
  · rw [if_pos htest] at hpath
    rw [if_neg (by simp [htest])]
    exact hgoal path hpath
  · rw [if_neg htest] at hpath
    split
    · exact hpath
    · rename_i hsame
      apply hgoal
      by_cases hcontains : goal.contains path = true
      · exact hcontains
      · refine absurd ⟨by simpa using htest, ?_⟩ hsame
        unfold FileState.contains at hcontains ⊢
        rw [hpath]
        exact fun heq => hcontains heq.symm

end Propagation

namespace Navigator

/-! ## The changes of a move -/

variable {lesson : Lesson} {direction : Direction} {source target : Task}
  {current goal : FileState} {resolver : Resolver}

/-- What a move may be: straight to the goal, the tests only, or with files carried along. -/
theorem changesBetween_cases (lesson : Lesson) (direction : Direction) (source target : Task)
    (current goal : FileState) (resolver : Resolver) :
    (changesBetween lesson direction source target current goal resolver).changes
        = current.diff goal ∨
    (lesson.classifier.taskFiles current = lesson.classifier.taskFiles goal ∧
      (changesBetween lesson direction source target current goal resolver).changes
        = (lesson.classifier.testFiles current).diff (lesson.classifier.testFiles goal)) ∨
    (direction = .next ∧ lesson.kind = .staged ∧
      (target.record = none ∨
        ∃ conflict ∈ (changesBetween lesson direction source target current goal resolver).asked,
          resolver conflict = .replace) ∧
      (changesBetween lesson direction source target current goal resolver).changes
        = Propagation.structural lesson.classifier current goal) := by
  unfold changesBetween
  split
  · rename_i hstaged
    unfold Propagation.resolve
    split
    · rename_i hnew
      exact .inr (.inr ⟨hstaged.1, hstaged.2, .inl hnew, rfl⟩)
    · split
      · rename_i hsame
        exact .inr (.inl ⟨hsame, rfl⟩)
      · split
        · exact .inl rfl
        · rename_i hreplace
          exact .inr (.inr ⟨hstaged.1, hstaged.2,
            .inr ⟨_, List.mem_singleton_self _, hreplace⟩, rfl⟩)
  · exact .inl rfl

theorem replay_changesBetween
    (h : direction = .next → lesson.kind = .staged → target.record ≠ none ∧
      ∀ conflict ∈ (changesBetween lesson direction source target current goal resolver).asked,
        resolver conflict ≠ .replace) :
    current.replay (changesBetween lesson direction source target current goal resolver).changes
      = goal := by
  rcases changesBetween_cases lesson direction source target current goal resolver with
    heq | ⟨hsame, heq⟩ | ⟨hnext, hstaged, hcarried, -⟩
  · rw [heq, FileState.replay_diff]
  · rw [heq, Propagation.replay_testFiles_diff hsame]
  · obtain ⟨hrecord, hasked⟩ := h hnext hstaged
    rcases hcarried with hnew | ⟨conflict, hconflict, hreplace⟩
    · exact absurd hnew hrecord
    · exact absurd hreplace (hasked conflict hconflict)

/-- A move is about files of either side only. -/
theorem get?_replay_changesBetween_of_none {path : String} (state : FileState)
    (hcurrent : current.get? path = none) (hgoal : goal.get? path = none) :
    (state.replay
        (changesBetween lesson direction source target current goal resolver).changes).get? path
      = state.get? path := by
  rcases changesBetween_cases lesson direction source target current goal resolver with
    heq | ⟨-, heq⟩ | ⟨-, -, -, heq⟩
  · rw [heq, FileState.get?_replay_diff, if_pos (hcurrent.trans hgoal.symm)]
  · rw [heq, FileState.get?_replay_diff, if_pos]
    simp [Classifier.testFiles, hcurrent, hgoal]
  · rw [heq]
    apply FileState.get?_replay_of_not_mem
    intro change hchange hpath
    rcases Propagation.mem_structural_iff.1 hchange with h | ⟨other, text, -, hother, -, rfl⟩ |
      ⟨other, text, -, hother, -, rfl⟩
    · have hne := (FileState.of_mem_diff h).1
      rw [hpath] at hne
      simp [Classifier.testFiles, hcurrent, hgoal] at hne
    · obtain rfl : other = path := hpath
      rw [hcurrent] at hother
      cases hother
    · obtain rfl : other = path := hpath
      rw [hgoal] at hother
      cases hother

theorem contains_replayStructural_changesBetween {files : FileState} {path : String}
    (hgoal : ∀ path, goal.contains path = true → files.contains path = true)
    (hpath : (current.replay (changesBetween lesson direction source target current goal
      resolver).changes).contains path = true) :
    (files.replayStructural (changesBetween lesson direction source target current goal
      resolver).changes).contains path = true := by
  rcases changesBetween_cases lesson direction source target current goal resolver with
    heq | ⟨hsame, heq⟩ | ⟨-, -, -, heq⟩
  · rw [heq, FileState.replay_diff] at hpath
    rw [heq, FileState.replayStructural_diff]
    exact hgoal path hpath
  · rw [heq, Propagation.replay_testFiles_diff hsame] at hpath
    rw [heq, FileState.replayStructural_diff]
    exact hgoal path hpath
  · rw [heq] at hpath ⊢
    exact Propagation.contains_replayStructural_structural hgoal hpath

/-- A move gives the target no files but those that the learner has. -/
theorem contains_of_contains_replayStructural {files : FileState} {path : String}
    (hpath : (files.replayStructural (changesBetween lesson direction source target current goal
      resolver).changes).contains path = true) :
    files.contains path = true ∨ current.contains path = true := by
  rcases changesBetween_cases lesson direction source target current goal resolver with
    heq | ⟨-, heq⟩ | ⟨-, -, -, heq⟩
  · rw [heq, FileState.replayStructural_diff] at hpath
    exact .inl hpath
  · rw [heq, FileState.replayStructural_diff] at hpath
    exact .inl hpath
  · unfold FileState.contains at hpath ⊢
    rw [heq, Propagation.get?_replayStructural_structural] at hpath
    split at hpath
    · exact .inr hpath
    · exact .inl hpath

end Navigator

end LessonHistory
