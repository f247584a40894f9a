-- Tests and task files, each for itself. Between them they are all the files, and no file is both.
-- The changes between two states are those between their tests and those between their task files,
-- and a replay does to the tests what the changes about tests do to them alone.
import LessonHistory.Lesson.Classifier
import LessonHistory.Proofs.Change.Diff

namespace LessonHistory

namespace FileState

variable (keep : String → Bool)

/-! ## Some of the files -/

theorem contains_filter (state : FileState) (path : String) :
    (state.filter keep).contains path = (keep path && state.contains path) := by
  unfold contains
  rw [get?_filter]
  cases keep path with
  | true => rfl
  | false => rfl

theorem paths_filter (state : FileState) :
    (state.filter keep).paths = state.paths.filter keep :=
  List.filter_map.symm

theorem disjoint_paths_filter (state : FileState) :
    (state.filter keep).paths.Disjoint (state.filter fun path => !keep path).paths := by
  intro path hpass hfail
  rw [mem_paths_iff, contains_filter, Bool.and_eq_true] at hpass hfail
  rw [hpass.1] at hfail
  cases hfail.1

theorem ofList_filter_append_filter (state : FileState) :
    ofList ((state.filter keep).entries ++ (state.filter fun path => !keep path).entries)
      = state := by
  ext1 path
  unfold ofList
  rw [List.foldl_append, get?_foldl_insert (state.filter _).sorted,
    get?_foldl_insert (state.filter _).sorted, get?_empty, Option.or_none]
  change ((state.filter fun path => !keep path).get? path).or ((state.filter keep).get? path)
    = state.get? path
  rw [get?_filter, get?_filter]
  cases keep path <;> simp

theorem filter_apply (change : Change) (state : FileState) :
    (change.apply state).filter keep
      = if keep change.path then change.apply (state.filter keep) else state.filter keep := by
  ext1 path
  rw [get?_filter, get?_apply]
  by_cases hpath : path = change.path
  · subst hpath
    cases hkeep : keep change.path <;> simp [get?_apply, hkeep]
  · cases keep change.path <;> simp [get?_apply, hpath]

/-- Of a replay these files see only the changes that are about them. -/
theorem filter_replay (state : FileState) (changes : List Change) :
    (state.replay changes).filter keep
      = (state.filter keep).replay (changes.filter fun change => keep change.path) := by
  induction changes generalizing state with
  | nil => rfl
  | cons change rest ih =>
    rw [replay_cons, ih, filter_apply, List.filter_cons]
    split
    · rw [replay_cons]
    · rfl

/-- What is written at a path is about these files just when the path is one of theirs. -/
theorem filter_writeChange (a : FileState) (path text : String) :
    (a.writeChange path text).filter (fun change => keep change.path)
      = if keep path then (a.filter keep).writeChange path text else none := by
  split
  · rename_i hkeep
    have hsame : (a.filter keep).writeChange path text = a.writeChange path text := by
      unfold writeChange
      rw [get?_filter, if_pos hkeep]
    rw [hsame]
    cases hchange : a.writeChange path text with
    | none => rfl
    | some change => rw [Option.filter_some, path_of_writeChange hchange, if_pos hkeep]
  · rename_i hkeep
    cases hchange : a.writeChange path text with
    | none => rfl
    | some change => rw [Option.filter_some, path_of_writeChange hchange, if_neg hkeep]

/-- The changes that are about these files are the changes between these files. -/
theorem filter_diff (a b : FileState) :
    (a.diff b).filter (fun change => keep change.path) = (a.filter keep).diff (b.filter keep) := by
  unfold diff
  rw [List.filter_append]
  congr 1
  · -- What is written goes by the entries, and each entry by its own path.
    change _ = (b.entries.filter (keep ·.1)).filterMap _
    rw [List.filter_filterMap, List.filterMap_filter]
    simp only [filter_writeChange]
  · -- What is removed goes by the paths that the other side does not have.
    rw [List.filter_map, paths_filter, List.filter_filter, List.filter_filter]
    congr 1
    apply List.filter_congr
    intro path _
    rw [contains_filter]
    cases hkeep : keep path <;> simp [Change.path, hkeep]

end FileState

namespace Classifier

/-- Tests and task files are apart, and together they are the files. The changes between two states
that are about tests are the changes between their tests, in the same order, and of a replay the
tests see only the changes that are about tests. For task files it is the same. -/
theorem a_split_goes_through_changes_and_replays (classifier : Classifier) (a b : FileState)
    (changes : List Change) :
    (classifier.testFiles a).paths.Disjoint (classifier.taskFiles a).paths ∧
    FileState.ofList ((classifier.testFiles a).entries ++ (classifier.taskFiles a).entries) = a ∧
    (a.diff b).filter (fun change => classifier.isTest change.path)
      = (classifier.testFiles a).diff (classifier.testFiles b) ∧
    (a.diff b).filter (fun change => !classifier.isTest change.path)
      = (classifier.taskFiles a).diff (classifier.taskFiles b) ∧
    classifier.testFiles (a.replay changes)
      = (classifier.testFiles a).replay
          (changes.filter fun change => classifier.isTest change.path) ∧
    classifier.taskFiles (a.replay changes)
      = (classifier.taskFiles a).replay
          (changes.filter fun change => !classifier.isTest change.path) :=
  ⟨FileState.disjoint_paths_filter _ a, FileState.ofList_filter_append_filter _ a,
    FileState.filter_diff classifier.isTest a b,
    FileState.filter_diff (fun path => !classifier.isTest path) a b,
    FileState.filter_replay classifier.isTest a changes,
    FileState.filter_replay (fun path => !classifier.isTest path) a changes⟩

end Classifier

end LessonHistory
