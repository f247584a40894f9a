-- What is stored for a task, put in terms of new files of the task. As long as no path occurs twice,
-- which is so of all that is ever stored, the changes do to the new files what they would have done
-- anyway, and they fit them. Changes that fit already stay as they are.
import LessonHistory.Proofs.Lesson.Fitting

namespace LessonHistory

/-! ## One change -/

namespace Change

/-- Whether the path of the change is among the files just as the change has it. -/
def Suits (files : FileState) : Change → Prop
  | addFile path _ => files.contains path = false
  | changeFile path _ => files.contains path = true
  | removeFile path => files.contains path = true
  | _ => True

/-- In terms of a baseline a change leaves the same at the same path and suits the baseline. Only
the removal of a file that is not there is left out. -/
theorem rebase_cases (baseline : FileState) (change : Change) :
    (change.rebase baseline = none ∧ change.text? = none ∧
      baseline.contains change.path = false) ∨
    (∃ rebased, change.rebase baseline = some rebased ∧ rebased.path = change.path ∧
      rebased.text? = change.text? ∧ rebased.Suits baseline) := by
  cases change with
  | addFile path text =>
    cases hpath : baseline.contains path <;>
      simp [rebase, Change.path, text?, Suits, hpath]
  | removeFile path =>
    cases hpath : baseline.contains path <;>
      simp [rebase, Change.path, text?, Suits, hpath]
  | changeFile path text =>
    cases hpath : baseline.contains path <;>
      simp [rebase, Change.path, text?, Suits, hpath]
  | addTaskFile path text => simp [rebase, Suits]
  | removeTaskFile path => simp [rebase, Suits]

theorem rebase_of_suits {baseline : FileState} {change : Change} (h : change.Suits baseline) :
    change.rebase baseline = some change := by
  cases change with
  | addFile path text => simp [rebase, show baseline.contains path = false from h]
  | removeFile path => simp [rebase, show baseline.contains path = true from h]
  | changeFile path text => simp [rebase, show baseline.contains path = true from h]
  | addTaskFile path text => rfl
  | removeTaskFile path => rfl

end Change

namespace FileState

variable {baseline state : FileState} {changes : List Change}

theorem suits_iff : baseline.Suits changes (fun _ => False) ↔
    (changes.map Change.path).Nodup ∧ ∀ change ∈ changes, change.Suits baseline := by
  constructor
  · intro h
    refine ⟨h.once, ?_⟩
    intro change hchange
    cases change with
    | addFile path text => exact h.adds path text hchange
    | removeFile path => exact h.removes path hchange
    | changeFile path text =>
      show baseline.contains path = true
      simpa using h.overwrites path text hchange
    | addTaskFile path text => trivial
    | removeTaskFile path => trivial
  · rintro ⟨honce, hall⟩
    refine ⟨honce, fun path text hchange => hall _ hchange, fun path hchange => hall _ hchange, ?_⟩
    intro path text hchange
    have hin : baseline.contains path = true := hall _ hchange
    simp [hin]

/-! ## All the changes -/

theorem rebase_cons (baseline : FileState) (change : Change) (rest : List Change) :
    baseline.rebase (change :: rest) = baseline.rebase [change] ++ baseline.rebase rest :=
  List.filterMap_append (l := [change])

/-- To a state that has the path of a change just when the baseline has it, the change does the same
in terms of the baseline. -/
theorem replay_rebase_singleton {change : Change}
    (hsame : state.contains change.path = baseline.contains change.path) :
    state.replay (baseline.rebase [change]) = change.apply state := by
  unfold rebase
  ext1 path
  rw [get?_apply]
  rcases change.rebase_cases baseline with ⟨hnone, htext, hpath⟩ | ⟨rebased, hsome, hpath, htext, -⟩
  · rw [List.filterMap_cons_none hnone, List.filterMap_nil, replay_nil, htext]
    split
    · rename_i heq
      rw [heq, ← not_contains_iff, hsame, hpath]
    · rfl
  · rw [List.filterMap_cons_some hsome, List.filterMap_nil, replay_cons, replay_nil, get?_apply,
      hpath, htext]

/-- Changes that name each path once do the same in terms of a baseline, when the state has just
those of their paths that the baseline has. -/
theorem replay_rebase (honce : (changes.map Change.path).Nodup)
    (hsame : ∀ change ∈ changes, state.contains change.path = baseline.contains change.path) :
    state.replay (baseline.rebase changes) = state.replay changes := by
  induction changes generalizing state with
  | nil => rfl
  | cons change rest ih =>
    obtain ⟨hfirst, hrest⟩ := List.nodup_cons.1 honce
    rw [rebase_cons, replay_append, replay_rebase_singleton (hsame change List.mem_cons_self),
      replay_cons]
    apply ih hrest
    -- The change that was carried out is about none of the paths that are left.
    intro later hlater
    have hne : later.path ≠ change.path :=
      fun heq => hfirst (heq ▸ List.mem_map_of_mem hlater)
    rw [← hsame later (List.mem_cons_of_mem _ hlater)]
    unfold contains
    rw [get?_apply, if_neg hne]

theorem map_path_rebase_sublist (baseline : FileState) (changes : List Change) :
    ((baseline.rebase changes).map Change.path).Sublist (changes.map Change.path) := by
  induction changes with
  | nil => exact .slnil
  | cons change rest ih =>
    unfold rebase at ih ⊢
    rcases change.rebase_cases baseline with ⟨hnone, -⟩ | ⟨rebased, hsome, hpath, -⟩
    · rw [List.filterMap_cons_none hnone]
      exact .cons _ ih
    · rw [List.filterMap_cons_some hsome, List.map_cons, hpath]
      exact .cons_cons _ ih

theorem suits_rebase (honce : (changes.map Change.path).Nodup) (baseline : FileState) :
    baseline.Suits (baseline.rebase changes) fun _ => False := by
  refine suits_iff.2 ⟨(map_path_rebase_sublist baseline changes).nodup honce, ?_⟩
  intro rebased hrebased
  obtain ⟨change, -, hchange⟩ := List.mem_filterMap.1 hrebased
  rcases change.rebase_cases baseline with ⟨hnone, -⟩ | ⟨found, hsome, -, -, hsuits⟩
  · rw [hnone] at hchange
    cases hchange
  · rw [hsome] at hchange
    cases hchange
    exact hsuits

theorem Suits.rebase_eq (h : baseline.Suits changes fun _ => False) :
    baseline.rebase changes = changes := by
  have hall : ∀ change ∈ changes, change.rebase baseline = some change :=
    fun change hchange => Change.rebase_of_suits ((suits_iff.1 h).2 change hchange)
  unfold rebase
  rw [List.filterMap_congr hall, List.filterMap_some]

theorem rebase_diff (a b : FileState) : a.rebase (a.diff b) = a.diff b :=
  (suits_diff (fun _ hin => hin) fun _ _ hout => hout).rebase_eq

end FileState

/-! ## All that is ever stored -/

namespace Work

variable {σ ω : Type} {s : Work σ ω} {arena : Arena}

/-- Whether all changes that were stored for any task name each path once. -/
def Once (s : Work σ ω) : Prop := ∀ save ∈ s.saves, (save.2.map Change.path).Nodup

theorem Once.noteSave (h : s.Once) {changes : List Change}
    (hchanges : (changes.map Change.path).Nodup) (index : Nat)
    (outcome : Except StoreError Record × σ) :
    ∀ save ∈ s.noteSave index changes outcome, (save.2.map Change.path).Nodup := by
  unfold Work.noteSave
  split
  · exact List.forall_mem_cons.2 ⟨hchanges, h⟩
  · exact h

variable [ChangeLog σ]

theorem Once.transition (h : s.Once) (direction : Direction) (onDisk : FileState)
    (resolver : Resolver) : (s.transition direction onDisk resolver).Once := by
  rcases s.transition_cases direction onDisk resolver with ⟨error, -, hsame⟩ |
    ⟨way, error, after, -, -, hmade⟩ | ⟨way, given, after, -, -, hmade⟩
  · rw [hsame]
    exact h
  · rw [hmade]
    exact h
  · rw [hmade]
    exact List.forall_mem_cons.2 ⟨FileState.nodup_diff _ _, h⟩

theorem Once.external (h : s.Once) (index : Nat) (solution : FileState) :
    (s.external index solution).Once := by
  cases htask : s.lesson.tasks[index]? with
  | none =>
    unfold Work.external
    rw [htask]
    exact h
  | some task =>
    rw [external_eq htask]
    exact h.noteSave (FileState.nodup_diff _ _) _ _

variable [SafeLog σ]

theorem Once.rebase (h : s.Once) (htidy : s.Tidy arena) (index : Nat) (baseline : FileState) :
    (s.rebase index baseline).Once := by
  rcases s.rebase_cases index baseline with hsame | ⟨record, stored, hrecord, hread, hmade⟩
  · rw [hsame]
    exact h
  · obtain ⟨found, hsave, -, hfound⟩ := htidy.exists_save hrecord
    obtain rfl := hfound stored hread
    have honce := h _ (Volume.mem_of_lookup_eq_some hsave)
    rw [hmade]
    exact h.noteSave ((FileState.map_path_rebase_sublist baseline stored).nodup honce) _ _

variable [Workspace ω]

theorem Once.perform (h : s.Once) (htidy : s.Tidy arena) (deed : Deed σ ω) :
    (s.perform deed).Once := by
  cases deed with
  | move direction resolver =>
    rw [Work.perform, move_eq]
    exact h.transition direction s.onDisk resolver
  | transition direction onDisk resolver => exact h.transition direction onDisk resolver
  | external index solution => exact h.external index solution
  | rebase index baseline => exact h.rebase htidy index baseline
  | replace index files =>
    rw [Work.perform]
    unfold Work.replace
    split
    · exact h
    · exact h
  | edit workspace => exact h
  | fault store => exact h

/-- Whatever is done and whatever fails, no changes with a path twice are ever stored. -/
theorem Run.once {initial : Work σ ω} (hrun : initial.Run Possible s) (htidy : initial.Tidy arena)
    (honce : initial.Once) : s.Once := by
  induction hrun with
  | start => exact honce
  | step before deed h ih =>
    obtain ⟨held, hheld, -⟩ := before.exists_tidy (fun _ _ h => h) htidy
    exact ih.perform hheld deed

/-- Changes that name each path once do to new files, put in terms of these, what they do anyway:
every path that they name has what they leave there, and every other path has what the new files
have. They fit the new files then, the paths stay distinct and in their order, and doing it again
changes nothing. The changes between two states are in terms of the first as they are. All changes
that are ever stored in the work on a lesson name each path once. -/
theorem rebased_changes_do_the_same_and_fit {changes : List Change}
    (honce : (changes.map Change.path).Nodup) (baseline : FileState) :
    let rebased := baseline.rebase changes
    baseline.replay rebased = baseline.replay changes ∧
    (∀ change ∈ changes, (baseline.replay rebased).get? change.path = change.text?) ∧
    (∀ path, (∀ change ∈ changes, change.path ≠ path) →
      (baseline.replay rebased).get? path = baseline.get? path) ∧
    baseline.Suits rebased (fun _ => False) ∧
    (rebased.map Change.path).Sublist (changes.map Change.path) ∧
    baseline.rebase rebased = rebased ∧
    (∀ a b : FileState, a.rebase (a.diff b) = a.diff b) ∧
    ∀ (lesson : Lesson) (store : σ) (workspace : ω) (arena : Arena) (s : Work σ ω),
      (∀ task ∈ lesson.tasks, task.record = none) → SafeLog.Holds store arena →
        (start lesson store workspace).Run Possible s →
          ∀ save ∈ s.saves, (save.2.map Change.path).Nodup := by
  intro rebased
  have hsame : baseline.replay rebased = baseline.replay changes :=
    FileState.replay_rebase honce fun _ _ => rfl
  have hsuits := FileState.suits_rebase honce baseline
  refine ⟨hsame, ?_, ?_, hsuits, FileState.map_path_rebase_sublist _ _, hsuits.rebase_eq,
    FileState.rebase_diff, ?_⟩
  · intro change hchange
    rw [hsame]
    exact FileState.get?_replay_of_once honce hchange baseline
  · intro path hpath
    rw [hsame]
    exact FileState.get?_replay_of_not_mem hpath baseline
  · intro lesson store workspace arena s hunsaved hholds hrun
    exact hrun.once (tidy_start hunsaved hholds workspace) fun save hsave => by cases hsave

/-- The work on two tasks after a solution for the second was stored, and the second then lost the
file that the solution overwrites. -/
def outdated : Work Arena MemoryWorkspace :=
  ((start (.twoStages .template) Arena.empty ⟨.ofList [("a", "x")]⟩).perform
    (.external 1 (.ofList [("a", "x"), ("b", "z")]))).perform (.rebase 1 (.ofList [("a", "x")]))

/-- An overwriting and an addition change places, and the removal of a file that is gone is left
out. -/
theorem a_removal_of_what_is_gone_is_left_out :
    let changes : List Change :=
      [.addFile "a" "z", .changeFile "b" "w", .removeFile "c", .removeTaskFile "d"]
    let files := FileState.ofList [("a", "x"), ("d", "y")]
    files.rebase changes = [.changeFile "a" "z", .addFile "b" "w", .removeTaskFile "d"] ∧
      files.replay (files.rebase changes) = .ofList [("a", "z"), ("b", "w")] ∧
      outdated.saves = [(1, [.addFile "b" "z"]), (1, [.changeFile "b" "z"])] ∧
      ∀ save ∈ outdated.saves, (save.2.map Change.path).Nodup := by
  intro changes files
  obtain ⟨hsame, -, -, -, -, -, -, hstored⟩ :=
    @rebased_changes_do_the_same_and_fit Arena MemoryWorkspace _ _ _ changes (by decide) files
  refine ⟨by decide, ?_, by decide, ?_⟩
  · rw [hsame]
    decide
  · exact hstored _ _ _ _ _ (Lesson.record_twoStages .template) rfl
      ((Run.start.step (.external 1 _) trivial).step (.rebase 1 _) trivial)

end Work

end LessonHistory
