-- A move that could not be carried out to its end. The lesson is on the new task then, but the
-- workspace is not: it has the files that were written so far. Nothing is lost yet, but the move
-- out of the task takes these files for the learner's work on it, and stores them in place of what
-- was stored before.
import LessonHistory.Proofs.Lesson.Visit
import LessonHistory.Proofs.Workspace.Stepwise

namespace LessonHistory

namespace Work

variable {σ ω : Type} [Workspace ω] [StepwiseWorkspace ω] {s : Work σ ω} {direction : Direction}
  {resolver : Resolver} {way : s.lesson.Move} {files : FileState}

/-! ## What a move leaves when it stops -/

theorem get?_onDisk_of_has (hway : s.lesson.move direction = .ok way)
    (hfiles : StepwiseWorkspace.Has s.workspace files)
    (hleaves : ∀ path, way.leaves.files.contains path = true →
      StepwiseWorkspace.Admits s.workspace path) (path : String) :
    s.onDisk.get? path = if way.leaves.files.contains path then files.get? path else none := by
  rw [get?_onDisk hway]
  split
  · rename_i hpath
    exact StepwiseWorkspace.text?_eq hfiles (hleaves path hpath)
  · rfl

variable [ChangeLog σ] [SafeLog σ] {arena : Arena}

/-- A move to what is stored for its target carries out the first of the changes to it, and all of
them if it succeeds. -/
theorem Tidy.exists_done (htidy : s.Tidy arena) (hkind : s.lesson.kind = .template)
    (hway : s.lesson.move direction = .ok way) (hsteady : s.Steady (.move direction resolver))
    (hfiles : StepwiseWorkspace.Has s.workspace files)
    (hleaves : ∀ path, way.leaves.files.contains path = true →
      StepwiseWorkspace.Admits s.workspace path)
    (hgoal : ∀ path, (s.goal way).contains path = true →
      StepwiseWorkspace.Admits s.workspace path) :
    ∃ done undone, s.onDisk.diff (s.goal way) = done ++ undone ∧
      ((Navigator.prepare s.lesson s.store s.workspace direction resolver).result.isOk = true →
        undone = []) ∧
      StepwiseWorkspace.Has (s.move direction resolver).workspace (files.replay done) ∧
      ∀ path, StepwiseWorkspace.Admits s.workspace path →
        StepwiseWorkspace.Admits (s.move direction resolver).workspace path := by
  obtain ⟨given, after, hmade⟩ := htidy.move_of_steady hkind hway hsteady
  have hchanges : (s.transition direction s.onDisk resolver).passage.changes
      = s.onDisk.diff (s.goal way) := by
    have hpassage := congrArg (fun work => work.passage.changes) (move_eq s direction resolver)
    rw [hmade] at hpassage
    exact hpassage.symm
  have hresult := (outcome_prepare hway resolver).2
  rw [hchanges] at hresult
  have hadmits : ∀ change ∈ s.onDisk.diff (s.goal way),
      StepwiseWorkspace.Admits s.workspace change.path := by
    intro change hchange
    have hdiffer := (FileState.of_mem_diff hchange).1
    by_cases hpath : (s.goal way).contains change.path = true
    · exact hgoal _ hpath
    · apply hleaves
      by_contra hleft
      rw [get?_onDisk hway, if_neg hleft] at hdiffer
      rw [Bool.not_eq_true, FileState.not_contains_iff] at hpath
      exact hdiffer hpath.symm
  obtain ⟨done, undone, hsplit, hall, hhas, hkept⟩ :=
    StepwiseWorkspace.apply_explained hfiles hadmits
  rw [hmade]
  exact ⟨done, undone, hsplit, fun hok => hall (hresult hok), hhas, hkept⟩

/-- A move in a template that stops before all its changes were carried out loses nothing yet: what
was stored for its target still is. But if the learner does nothing then, the move out of the target
stores for it what has come of its files. That is what was stored before just when this has no files
but those of the task itself, the changes that were not carried out alter none of these, and the
workspace had no others that the task takes for its own. -/
theorem a_stopped_move_costs_its_target_what_was_left_undone {lesson : Lesson} {store : σ}
    {workspace : ω} (hkind : lesson.kind = .template)
    (hunsaved : ∀ task ∈ lesson.tasks, task.record = none) (hholds : SafeLog.Holds store arena)
    (hrun : (start lesson store workspace).Run Possible s) {onward : Direction}
    {resolver' : Resolver} {way' : (s.move direction resolver).lesson.Move}
    (hway : s.lesson.move direction = .ok way) (hsteady : s.Steady (.move direction resolver))
    (hway' : (s.move direction resolver).lesson.move onward = .ok way')
    (hsteady' : (s.move direction resolver).Steady (.move onward resolver'))
    (hfiles : StepwiseWorkspace.Has s.workspace files)
    (hadmits : ∀ path, way.leaves.files.contains path = true ∨
      way.enters.files.contains path = true ∨ (s.goal way).contains path = true →
        StepwiseWorkspace.Admits s.workspace path) :
    ∃ before after done undone, s.Keeps way.target before ∧
      s.onDisk.diff before = done ++ undone ∧
      ((Navigator.prepare s.lesson s.store s.workspace direction resolver).result.isOk = true →
        undone = []) ∧
      StepwiseWorkspace.Has (s.move direction resolver).workspace (files.replay done) ∧
      (s.move direction resolver).Keeps way.target before ∧
      ((s.move direction resolver).move onward resolver').Keeps way.target after ∧
      (∀ path, after.get? path = if way.enters.files.contains path
        then (files.replay done).get? path else none) ∧
      (after = before ↔
        (∀ path, before.contains path = true → way.enters.files.contains path = true) ∧
        (∀ change ∈ undone, way.enters.files.contains change.path = true →
          files.get? change.path = change.text?) ∧
        ∀ path, way.enters.files.contains path = true → way.leaves.files.contains path = false →
          before.contains path = false → files.contains path = false) := by
  obtain ⟨held, htidy, -⟩ :=
    hrun.exists_tidy (fun _ _ h => h) (tidy_start hunsaved hholds workspace)
  have hrun' : (start lesson store workspace).Run Possible (s.move direction resolver) :=
    hrun.step (.move direction resolver) trivial
  obtain ⟨held', htidy', -⟩ :=
    hrun'.exists_tidy (fun _ _ h => h) (tidy_start hunsaved hholds workspace)
  have hkind' := hrun'.kind_eq.trans hkind
  have hkind := hrun.kind_eq.trans hkind
  have hleaves := fun path hpath => hadmits path (.inl hpath)
  obtain ⟨done, undone, hsplit, hall, hhas, hkept⟩ := htidy.exists_done hkind hway hsteady hfiles
    hleaves fun path hpath => hadmits path (.inr (.inr hpath))
  obtain ⟨hsource, hentered⟩ := htidy.way_on hkind hway hsteady hway'
  obtain ⟨hleft, -⟩ := htidy'.keeps_move hkind' hway' hsteady'
  rw [hsource] at hleft
  have hcaptured := get?_onDisk_of_has hway' hhas
  rw [hentered] at hcaptured
  have hcaptured := hcaptured fun path hpath => hkept path (hadmits path (.inr (.inl hpath)))
  exact ⟨s.goal way, _, done, undone, htidy.keeps way.enters_eq, hsplit, hall, hhas,
    (htidy.keeps_move hkind hway hsteady).2, hleft, hcaptured,
    FileState.captured_eq_iff_of_split hcaptured (get?_onDisk_of_has hway hfiles hleaves) hsplit⟩

/-- The work on two tasks after a solution for the first was stored, in the second. -/
def halting : Work Arena HaltingWorkspace :=
  ((start (.twoStages .template) .empty
    ⟨.ofList [("a", "x")], 1, .write "b" .isADirectory⟩).move .next (.always .keep)).perform
      (.external 0 (.ofList [("a", "z")]))

/-- A move that stops before it has removed a file costs nothing. -/
theorem a_file_that_stays_behind_costs_nothing :
    (Navigator.prepare halting.lesson halting.store halting.workspace .previous
      (.always .keep)).result = .error (.workspace (.write "b" .isADirectory)) ∧
    ((halting.move .previous (.always .keep)).move .next (.always .keep)).Keeps 0
      (.ofList [("a", "z")]) := by
  have hrun : (start (.twoStages .template) Arena.empty
      (⟨.ofList [("a", "x")], 1, .write "b" .isADirectory⟩ : HaltingWorkspace)).Run Possible
        halting :=
    (Run.start.step (.move .next (.always .keep)) trivial).step (.external 0 _) trivial
  have hsteady : halting.Steady (.move .previous (.always .keep)) := by
    intro passed hmade
    cases hmade
    rfl
  have hsteady' : (halting.move .previous (.always .keep)).Steady
      (.move .next (.always .keep)) := by
    intro passed hmade
    cases hmade
    rfl
  refine ⟨by decide, ?_⟩
  obtain ⟨before, after, done, undone, -, -, -, hhas, -, hafter, hget, -⟩ :=
    a_stopped_move_costs_its_target_what_was_left_undone rfl (Lesson.record_twoStages .template) rfl
      hrun rfl hsteady rfl hsteady' rfl fun _ _ => trivial
  obtain rfl : after = .ofList [("a", "z")] := by
    ext1 path
    rw [hget, ← hhas]
    by_cases hpath : path = "a"
    · subst hpath
      rfl
    · rw [if_neg]
      · simp [FileState.ofList, hpath]
      · show ¬ (FileState.ofList [("a", "x")]).contains path = true
        simp [FileState.ofList, FileState.contains, hpath]
  exact hafter

/-- The work on two tasks after a solution for the second was stored, when a directory stands where
the second has a file. -/
def blocked : Work Arena DirectoryWorkspace :=
  (start (.twoStages .template) .empty
    ⟨{ nodes := [(["t", "b"], .directory), (["t", "a"], .file [120]), (["t"], .directory)] },
      "t"⟩).perform (.external 1 (.ofList [("a", "z"), ("b", "w")]))

/-- A file of the target that could not be written counts as deleted by the learner. -/
theorem a_file_that_could_not_be_written_is_lost :
    blocked.store.changes (some .first) = .ok [.changeFile "a" "z", .changeFile "b" "w"] ∧
      (Navigator.prepare blocked.lesson blocked.store blocked.workspace .next
        (.always .keep)).result = .error (.workspace (.write "t/b" .isADirectory)) ∧
      (blocked.move .next (.always .keep)).lesson.current = 1 ∧
      (blocked.move .next (.always .keep)).store.changes (some .first)
        = .ok [.changeFile "a" "z", .changeFile "b" "w"] ∧
      ((blocked.move .next (.always .keep)).move .previous (.always .keep)).lesson.record? 1
        = some .first ∧
      ((blocked.move .next (.always .keep)).move .previous (.always .keep)).store.changes
        (some .first) = .ok [.changeFile "a" "z", .removeFile "b"] ∧
      (FileState.ofList [("a", "x"), ("b", "y")]).replay [.changeFile "a" "z", .removeFile "b"]
        ≠ (FileState.ofList [("a", "x"), ("b", "y")]).replay
          [.changeFile "a" "z", .changeFile "b" "w"] := by
  refine ⟨?_, ?_, ?_, ?_, ?_, ?_, ?_⟩
  all_goals decide +kernel

end Work

end LessonHistory
