-- A visit of a task in a template: a move into it and, without an edit, a move out again. The move
-- in writes all that is stored for the task, but the move out captures only files that the task
-- itself has. What is stored beyond these is lost, and stays behind in the workspace.
import LessonHistory.Proofs.Lesson.Records

namespace LessonHistory

namespace Work

/-! ## The kind of a lesson -/

section

variable {σ ω : Type} [ChangeLog σ] {s : Work σ ω} {arena : Arena}

theorem kind_transition (s : Work σ ω) (direction : Direction) (onDisk : FileState)
    (resolver : Resolver) :
    (s.transition direction onDisk resolver).lesson.kind = s.lesson.kind := by
  rcases s.transition_cases direction onDisk resolver with ⟨error, -, hsame⟩ |
    ⟨way, error, store, -, -, hmade⟩ | ⟨way, given, store, -, -, hmade⟩
  · rw [hsame]
  · rw [hmade]
    rfl
  · rw [hmade]
    rfl

theorem kind_perform [Workspace ω] (s : Work σ ω) (deed : Deed σ ω) :
    (s.perform deed).lesson.kind = s.lesson.kind := by
  cases deed with
  | move direction resolver =>
    rw [perform, move_eq]
    exact s.kind_transition direction s.onDisk resolver
  | transition direction onDisk resolver => exact s.kind_transition direction onDisk resolver
  | external index solution =>
    show (s.external index solution).lesson.kind = _
    unfold external
    split
    · rfl
    · rfl
  | rebase index baseline =>
    show (s.rebase index baseline).lesson.kind = _
    unfold rebase
    split
    · rfl
    · rfl
  | replace index files =>
    show (s.replace index files).lesson.kind = _
    unfold replace
    split
    · rfl
    · rfl
  | edit workspace => rfl
  | fault store => rfl

theorem Run.kind_eq [Workspace ω] {allowed : Work σ ω → Deed σ ω → Prop} {initial : Work σ ω}
    (hrun : initial.Run allowed s) : s.lesson.kind = initial.lesson.kind := by
  induction hrun with
  | start => rfl
  | step before deed h ih => rw [kind_perform, ih]

/-! ## What is stored for a task -/

variable [SafeLog σ]

/-- The files of a task with the changes that are stored for it. -/
def Keeps (s : Work σ ω) (i : Nat) (state : FileState) : Prop :=
  ∃ task held stored, s.lesson.tasks[i]? = some task ∧ SafeLog.Holds s.store held ∧
    held.changes task.record = .ok stored ∧ task.files.replay stored = state

theorem Tidy.keeps (h : Tidy s arena) {i : Nat} {task : Task}
    (htask : s.lesson.tasks[i]? = some task) :
    s.Keeps i (task.files.replay ((s.lastSave i).getD [])) :=
  ⟨task, arena, _, htask, h.holds, Lesson.record?_of_getElem? htask ▸ h.changes_eq i, rfl⟩

theorem Keeps.replay_eq {i : Nat} {state : FileState} {task : Task} {found : List Change}
    (h : s.Keeps i state) (htask : s.lesson.tasks[i]? = some task)
    (hread : ChangeLog.changes s.store task.record = .ok found) :
    task.files.replay found = state := by
  obtain ⟨other, held, stored, hother, hholds, hstored, rfl⟩ := h
  rw [htask] at hother
  cases hother
  rw [SafeLog.changes_eq hholds hread] at hstored
  cases hstored
  rfl

end

/-! ## A move in a template -/

section

variable {σ ω : Type} [Workspace ω] {s : Work σ ω} {direction : Direction} {resolver : Resolver}
  {way : s.lesson.Move}

theorem get?_onDisk (hway : s.lesson.move direction = .ok way) (path : String) :
    s.onDisk.get? path = if way.leaves.files.contains path
      then Workspace.text? s.workspace path else none := by
  rw [← capture_leaves hway, Workspace.get?_capture]
  simp only [FileState.mem_paths_iff]

variable [ChangeLog σ]

theorem outcome_prepare (hway : s.lesson.move direction = .ok way) (resolver : Resolver) :
    let changes := (s.transition direction s.onDisk resolver).passage.changes
    let passage := Navigator.prepare s.lesson s.store s.workspace direction resolver
    passage.workspace = (Workspace.apply s.workspace changes).2 ∧
      (passage.result.isOk = true → (Workspace.apply s.workspace changes).1 = .ok ()) := by
  have htransition := Navigator.transition_eq hway
    (show Navigator.saveEdits s.store way.leaves s.onDisk = (_, _, _, _) from rfl) resolver
  unfold transition Navigator.prepare
  simp only [hway, Lesson.Move.currentTask?_eq hway, Lesson.Move.getElem_source,
    capture_leaves hway, htransition]
  refine ⟨trivial, ?_⟩
  intro hok
  split at hok
  · assumption
  · cases hok

variable [SafeLog σ] {arena : Arena}

/-- In a template a steady move leads to what was last stored for its target, and alters the files
of no task. -/
theorem Tidy.move_of_steady (htidy : s.Tidy arena) (hkind : s.lesson.kind = .template)
    (hway : s.lesson.move direction = .ok way) (hsteady : s.Steady (.move direction resolver)) :
    let changes := s.onDisk.diff (s.goal way)
    ∃ given after, s.move direction resolver
      = ⟨{ s.lesson with current := way.target }.withTask way.source
          { way.leaves with record := some given },
        after, (Workspace.apply s.workspace changes).2,
        (s.lesson.current, way.leaves.files.diff s.onDisk) :: s.saves, ⟨changes, []⟩⟩ := by
  intro changes
  obtain ⟨given, after, hmade⟩ := htidy.transition_of_steady hway hsteady
  rw [Navigator.changesBetween_plain (.inl hkind)] at hmade
  have hplain : changes.any Change.isStructural = false :=
    List.any_eq_false.2 fun change hchange => by
      simp [(FileState.of_mem_diff hchange).2.2]
  rw [Lesson.Move.crossed_of_not_structural hway _ hplain] at hmade
  refine ⟨given, after, ?_⟩
  rw [move_eq, (outcome_prepare hway resolver).1, hmade]

theorem Tidy.exists_tidy_move (htidy : s.Tidy arena) (direction : Direction)
    (resolver : Resolver) : ∃ next, (s.move direction resolver).Tidy next := by
  have hpossible : s.Possible (.move direction resolver) := trivial
  obtain ⟨next, hnext, -⟩ := (does_perform htidy.holds hpossible).exists_tidy htidy
  exact ⟨next, hnext⟩

/-- After a steady move what was on disk is stored for the task that was left, and what was stored
for the target still is. -/
theorem Tidy.keeps_move (htidy : s.Tidy arena) (hkind : s.lesson.kind = .template)
    (hway : s.lesson.move direction = .ok way) (hsteady : s.Steady (.move direction resolver)) :
    (s.move direction resolver).Keeps way.source s.onDisk ∧
      (s.move direction resolver).Keeps way.target (s.goal way) := by
  obtain ⟨next, hnext⟩ := htidy.exists_tidy_move direction resolver
  obtain ⟨given, after, hmade⟩ := htidy.move_of_steady hkind hway hsteady
  have hsource := (Lesson.way_of_move hway).1
  have hne := Lesson.Move.source_ne_target hway
  rw [hmade] at hnext ⊢
  have hleft := hnext.keeps (List.getElem?_set_self way.source.isLt)
  have hentered := hnext.keeps ((List.getElem?_set_ne hne).trans way.enters_eq)
  unfold lastSave at hleft hentered
  rw [FileState.lookup_entry_cons, if_pos hsource, Option.getD_some,
    FileState.replay_diff] at hleft
  rw [FileState.lookup_entry_cons, if_neg (hsource ▸ hne.symm)] at hentered
  exact ⟨hleft, hentered⟩

theorem Tidy.way_on (htidy : s.Tidy arena) (hkind : s.lesson.kind = .template)
    (hway : s.lesson.move direction = .ok way) (hsteady : s.Steady (.move direction resolver))
    {onward : Direction} {way' : (s.move direction resolver).lesson.Move}
    (hway' : (s.move direction resolver).lesson.move onward = .ok way') :
    (way'.source : Nat) = way.target ∧ way'.leaves = way.enters := by
  obtain ⟨given, after, hmade⟩ := htidy.move_of_steady hkind hway hsteady
  have hsource : (way'.source : Nat) = way.target := by
    rw [(Lesson.way_of_move hway').1, hmade]
    rfl
  have hget : (s.move direction resolver).lesson.tasks[(way.target : Nat)]? = some way.enters := by
    rw [hmade]
    exact (List.getElem?_set_ne (Lesson.Move.source_ne_target hway)).trans way.enters_eq
  rw [← hsource, way'.leaves_eq] at hget
  exact ⟨hsource, Option.some.inj hget⟩

end

/-! ## A visit -/

section

variable {σ : Type} {s : Work σ MemoryWorkspace} {direction : Direction} {resolver : Resolver}
  {way : s.lesson.Move} [ChangeLog σ] [SafeLog σ] {arena : Arena}

/-- After a steady move the workspace in memory has the files of the target, and besides these all
that it had, but for the files of the task that was left. -/
theorem Tidy.get?_workspace_move (htidy : s.Tidy arena) (hkind : s.lesson.kind = .template)
    (hway : s.lesson.move direction = .ok way) (hsteady : s.Steady (.move direction resolver))
    (path : String) :
    (s.move direction resolver).workspace.files.get? path
      = if way.leaves.files.contains path = false ∧ (s.goal way).contains path = false
        then s.workspace.files.get? path else (s.goal way).get? path := by
  obtain ⟨given, after, hmade⟩ := htidy.move_of_steady hkind hway hsteady
  rw [hmade]
  show (s.workspace.files.replay (s.onDisk.diff (s.goal way))).get? path = _
  rw [FileState.get?_replay_diff, get?_onDisk hway]
  cases way.leaves.files.contains path with
  | true =>
    simp only [if_true, Bool.true_eq_false, false_and, if_false]
    split
    · assumption
    · rfl
  | false =>
    by_cases hgoal : (s.goal way).get? path = none
    · simp [FileState.not_contains_iff.2 hgoal, hgoal]
    · rw [if_neg (by simpa using Ne.symm hgoal), if_neg]
      simpa [FileState.not_contains_iff] using hgoal

/-- What is captured of the files `own` is all that was brought in just when these have every path
that was brought in, and none of them was there before. -/
theorem captured_eq_iff {captured before own left old inside : FileState}
    (hcaptured : ∀ path, captured.get? path = if own.contains path then inside.get? path else none)
    (hinside : ∀ path, inside.get? path
      = if left.contains path = false ∧ before.contains path = false then old.get? path
        else before.get? path) :
    captured = before ↔
      (∀ path, before.contains path = true → own.contains path = true) ∧
      ∀ path, own.contains path = true → left.contains path = false →
        before.contains path = false → old.contains path = false := by
  refine FileState.eq_iff_of_captured hcaptured ?_
  intro path _
  rw [hinside]
  by_cases hnew : left.contains path = false ∧ before.contains path = false
  · rw [if_pos hnew, FileState.not_contains_iff.1 hnew.2, ← FileState.not_contains_iff]
    simp [hnew]
  · rw [if_neg hnew]
    exact iff_of_true rfl fun hleft hbefore => absurd ⟨hleft, hbefore⟩ hnew

/-- A visit of a task in a template, whatever was done before, keeps what is stored for the task
just when all the stored files are files of the task itself, and the workspace has no others that
the task would take for its own. Of the files that were stored for it exactly those that are not
its own stay in the workspace when it is left for a task that has not got them. -/
theorem a_visit_keeps_what_is_stored_just_when_all_of_it_is_captured {lesson : Lesson} {store : σ}
    {workspace : MemoryWorkspace} (hkind : lesson.kind = .template)
    (hunsaved : ∀ task ∈ lesson.tasks, task.record = none) (hholds : SafeLog.Holds store arena)
    (hrun : (start lesson store workspace).Run Possible s) {onward : Direction}
    {resolver' : Resolver} {way' : (s.move direction resolver).lesson.Move}
    (hway : s.lesson.move direction = .ok way) (hsteady : s.Steady (.move direction resolver))
    (hway' : (s.move direction resolver).lesson.move onward = .ok way')
    (hsteady' : (s.move direction resolver).Steady (.move onward resolver')) :
    ∃ before after goal, s.Keeps way.target before ∧
      ((s.move direction resolver).move onward resolver').Keeps way.target after ∧
      ((s.move direction resolver).move onward resolver').Keeps way'.target goal ∧
      (after = before ↔
        (∀ path, before.contains path = true → way.enters.files.contains path = true) ∧
        ∀ path, way.enters.files.contains path = true → way.leaves.files.contains path = false →
          before.contains path = false → s.workspace.files.contains path = false) ∧
      ∀ path, before.contains path = true → goal.contains path = false →
        (((s.move direction resolver).move onward resolver').workspace.files.contains path = true ↔
          way.enters.files.contains path = false) := by
  obtain ⟨held, htidy, -⟩ :=
    hrun.exists_tidy (fun _ _ h => h) (tidy_start hunsaved hholds workspace)
  have hrun' : (start lesson store workspace).Run Possible (s.move direction resolver) :=
    hrun.step (.move direction resolver) trivial
  obtain ⟨held', htidy', -⟩ :=
    hrun'.exists_tidy (fun _ _ h => h) (tidy_start hunsaved hholds workspace)
  have hkind' := hrun'.kind_eq.trans hkind
  have hkind := hrun.kind_eq.trans hkind
  obtain ⟨hsource, hleaves⟩ := htidy.way_on hkind hway hsteady hway'
  obtain ⟨hleft, hentered⟩ := htidy'.keeps_move hkind' hway' hsteady'
  rw [hsource] at hleft
  have hin := htidy.get?_workspace_move hkind hway hsteady
  have hout := htidy'.get?_workspace_move hkind' hway' hsteady'
  have honDisk := get?_onDisk hway'
  rw [hleaves] at hout honDisk
  refine ⟨s.goal way, _, (s.move direction resolver).goal way', htidy.keeps way.enters_eq, hleft,
    hentered, captured_eq_iff honDisk hin, ?_⟩
  intro path hbefore hgoal
  -- The move in has written every file that was stored.
  have hwritten := hin path
  rw [if_neg (by simp [hbefore])] at hwritten
  have hget := hout path
  cases hown : way.enters.files.contains path with
  | true =>
    rw [if_neg (by simp [hown]), FileState.not_contains_iff.1 hgoal] at hget
    simp [FileState.not_contains_iff.2 hget]
  | false =>
    rw [if_pos ⟨hown, hgoal⟩, hwritten] at hget
    exact iff_of_true ((congrArg Option.isSome hget).trans hbefore) rfl

/-- The work on two tasks after a solution for the second was stored. -/
def solved (solution : FileState) : Work Arena MemoryWorkspace :=
  (start (.twoStages .template) .empty ⟨.ofList [("a", "x")]⟩).perform (.external 1 solution)

def visited (solution : FileState) : Work Arena MemoryWorkspace :=
  ((solved solution).move .next (.always .keep)).move .previous (.always .keep)

/-- A visit keeps a solution that only overwrites a file. -/
theorem a_visit_keeps_an_overwritten_file :
    (visited (.ofList [("a", "x"), ("b", "z")])).Keeps 1 (.ofList [("a", "x"), ("b", "z")]) := by
  have hrun : (start (.twoStages .template) Arena.empty ⟨.ofList [("a", "x")]⟩).Run Possible
      (solved (.ofList [("a", "x"), ("b", "z")])) := Run.start.step (.external 1 _) trivial
  have hsteady : (solved (.ofList [("a", "x"), ("b", "z")])).Steady
      (.move .next (.always .keep)) := by
    intro passed hmade
    cases hmade
    rfl
  have hsteady' : ((solved (.ofList [("a", "x"), ("b", "z")])).move .next (.always .keep)).Steady
      (.move .previous (.always .keep)) := by
    intro passed hmade
    cases hmade
    rfl
  obtain ⟨before, after, goal, hbefore, hafter, -, hkept, -⟩ :=
    a_visit_keeps_what_is_stored_just_when_all_of_it_is_captured rfl
      (Lesson.record_twoStages .template) rfl hrun rfl hsteady rfl hsteady'
  obtain rfl : before = .ofList [("a", "x"), ("b", "z")] :=
    (hbefore.replay_eq rfl rfl).symm.trans rfl
  -- The solution has the same paths as the task, so all of it is captured.
  have hpaths : ∀ path, (FileState.ofList [("a", "x"), ("b", "z")]).contains path
      = (FileState.ofList [("a", "x"), ("b", "y")]).contains path := by
    intro path
    rw [Bool.eq_iff_iff, ← FileState.mem_paths_iff, ← FileState.mem_paths_iff]
    exact Iff.rfl
  have hsame := hkept.2 ⟨fun path hpath => (hpaths path).symm.trans hpath,
    fun path hown _ hnot =>
      absurd (hnot.symm.trans ((hpaths path).trans hown)) Bool.false_ne_true⟩
  rw [hsame] at hafter
  exact hafter

/-- A file that a solution adds is lost in a visit, and stays behind in the workspace. -/
theorem a_visit_loses_an_added_file :
    (start (.twoStages .template) Arena.empty ⟨.ofList [("a", "x")]⟩).Run Possible
        (solved (.ofList [("a", "x"), ("b", "y"), ("c", "w")])) ∧
      (solved (.ofList [("a", "x"), ("b", "y"), ("c", "w")])).store.changes (some .first)
        = .ok [.addFile "c" "w"] ∧
      (visited (.ofList [("a", "x"), ("b", "y"), ("c", "w")])).lesson.record? 1 = some .first ∧
      (visited (.ofList [("a", "x"), ("b", "y"), ("c", "w")])).store.changes (some .first)
        = .ok [] ∧
      (visited (.ofList [("a", "x"), ("b", "y"), ("c", "w")])).workspace
        = ⟨.ofList [("a", "x"), ("c", "w")]⟩ := by
  refine ⟨Run.start.step (.external 1 _) trivial, rfl, rfl, rfl, ?_⟩
  decide

end

end Work

end LessonHistory
