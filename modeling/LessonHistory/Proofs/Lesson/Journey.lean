-- Moves one after the other, without an edit, in a template and in a workspace that may stop before
-- it has carried out all the changes of a move. What is stored for a task is untouched as long as
-- the task is not left, and is what was captured when it was last left; and each time the task is
-- left, what is captured comes of what was stored as in a visit that may have been cut short.
import LessonHistory.Proofs.Lesson.Stopped

namespace LessonHistory

/-- A visit of a task with the files `own`: the changes to what was stored for the task are carried
out as far as it goes, and then what there is of its files is captured. -/
structure Visit (own before after : FileState) where
  left : FileState
  files : FileState
  onDisk : FileState
  done : List Change
  undone : List Change
  get?_onDisk : ∀ path, onDisk.get? path = if left.contains path then files.get? path else none
  diff_eq : onDisk.diff before = done ++ undone
  get?_after : ∀ path, after.get? path
    = if own.contains path then (files.replay done).get? path else none

/-- Just these visits keep what was stored. -/
theorem Visit.eq_iff {own before after : FileState} (visit : Visit own before after) :
    after = before ↔
      (∀ path, before.contains path = true → own.contains path = true) ∧
      (∀ change ∈ visit.undone, own.contains change.path = true →
        visit.files.get? change.path = change.text?) ∧
      ∀ path, own.contains path = true → visit.left.contains path = false →
        before.contains path = false → visit.files.contains path = false :=
  FileState.captured_eq_iff_of_split visit.get?_after visit.get?_onDisk visit.diff_eq

namespace Work

variable {σ ω : Type} {s : Work σ ω} {direction : Direction} {resolver : Resolver}
  {moves : List (Direction × Resolver)}

/-! ## Moves one after the other -/

/-- The files of a task. -/
def own (s : Work σ ω) (i : Nat) : FileState := (s.lesson.tasks[i]?.map Task.files).getD .empty

/-- The files of a task with what was last stored for it. -/
def kept (s : Work σ ω) (i : Nat) : FileState := (s.own i).replay ((s.lastSave i).getD [])

section

variable [Workspace ω] [ChangeLog σ]

def travel (s : Work σ ω) : List (Direction × Resolver) → Work σ ω
  | [] => s
  | (direction, resolver) :: rest => (s.move direction resolver).travel rest

/-- What was captured of a task each time that it was left on the way. -/
def departures (s : Work σ ω) (i : Nat) : List (Direction × Resolver) → List FileState
  | [] => []
  | (direction, resolver) :: rest =>
    if s.lesson.current = i ∧ (s.lesson.move direction).isOk then
      s.onDisk :: (s.move direction resolver).departures i rest
    else (s.move direction resolver).departures i rest

theorem move_of_error {error : NavError} (h : s.lesson.move direction = .error error)
    (resolver : Resolver) : s.move direction resolver = s := by
  unfold move Navigator.prepare
  simp only [h, transition_of_error h]

theorem head?_departures (s : Work σ ω) (moves : List (Direction × Resolver)) :
    ∀ first ∈ (s.departures s.lesson.current moves).head?, first = s.onDisk := by
  induction moves with
  | nil => exact nofun
  | cons move rest ih =>
    obtain ⟨direction, resolver⟩ := move
    unfold departures
    cases hway : s.lesson.move direction with
    | error error =>
      rw [move_of_error hway, if_neg (fun h => Bool.false_ne_true h.2)]
      exact ih
    | ok way =>
      rw [if_pos ⟨rfl, rfl⟩]
      rintro _ ⟨⟩
      rfl

/-- The store fails in none of the moves. -/
def SteadyAlong [SafeLog σ] (s : Work σ ω) : List (Direction × Resolver) → Prop
  | [] => True
  | (direction, resolver) :: rest =>
    s.Steady (.move direction resolver) ∧ (s.move direction resolver).SteadyAlong rest

end

theorem goal_eq_kept (way : s.lesson.Move) : s.goal way = s.kept way.target := by
  unfold goal kept own
  rw [way.enters_eq]
  rfl

theorem own_source {way : s.lesson.Move} (hway : s.lesson.move direction = .ok way) :
    s.own s.lesson.current = way.leaves.files := by
  unfold own
  rw [← (Lesson.way_of_move hway).1, way.leaves_eq]
  rfl

theorem get?_onDisk_own [Workspace ω] (s : Work σ ω) (path : String) :
    s.onDisk.get? path = if (s.own s.lesson.current).contains path
      then Workspace.text? s.workspace path else none := by
  unfold onDisk own Lesson.currentTask?
  cases s.lesson.tasks[s.lesson.current]? with
  | none => rfl
  | some task =>
    simp only [Workspace.get?_capture, FileState.mem_paths_iff]
    rfl

section

variable [Workspace ω] [StepwiseWorkspace ω]

/-- Every file of a task, and every file that is stored for one, can be in the workspace. -/
structure Admitting (s : Work σ ω) : Prop where
  own : ∀ i path, (s.own i).contains path = true → StepwiseWorkspace.Admits s.workspace path
  kept : ∀ i path, (s.kept i).contains path = true → StepwiseWorkspace.Admits s.workspace path

theorem Admitting.leaves (h : s.Admitting) (hway : s.lesson.move direction = .ok way) :
    ∀ path, way.leaves.files.contains path = true →
      StepwiseWorkspace.Admits s.workspace path := by
  intro path hpath
  rw [← own_source hway] at hpath
  exact h.own _ path hpath

theorem Admitting.goal (h : s.Admitting) (way : s.lesson.Move) :
    ∀ path, (s.goal way).contains path = true → StepwiseWorkspace.Admits s.workspace path := by
  intro path hpath
  rw [goal_eq_kept] at hpath
  exact h.kept _ path hpath

end

variable [ChangeLog σ] [SafeLog σ] {arena : Arena}

theorem Tidy.keeps_kept (htidy : s.Tidy arena) {i : Nat} {files : FileState}
    (hfiles : s.lesson.tasks[i]?.map Task.files = some files) : s.Keeps i (s.kept i) := by
  obtain ⟨task, htask, -⟩ := Option.map_eq_some_iff.1 hfiles
  unfold kept own
  rw [htask]
  exact htidy.keeps htask

/-! ## What is stored -/

section

variable [Workspace ω]

theorem Tidy.files_move (htidy : s.Tidy arena) (hkind : s.lesson.kind = .template)
    (hsteady : s.Steady (.move direction resolver)) (i : Nat) :
    (s.move direction resolver).lesson.tasks[i]?.map Task.files
      = s.lesson.tasks[i]?.map Task.files := by
  cases hway : s.lesson.move direction with
  | error error => rw [move_of_error hway]
  | ok way =>
    obtain ⟨given, after, hmade⟩ := htidy.move_of_steady hkind hway hsteady
    rw [hmade]
    change (s.lesson.tasks.set way.source _)[i]?.map Task.files = _
    by_cases hi : i = way.source
    · rw [hi, List.getElem?_set_self way.source.isLt, way.leaves_eq]
      rfl
    · rw [List.getElem?_set_ne (Ne.symm hi)]

theorem Tidy.own_move (htidy : s.Tidy arena) (hkind : s.lesson.kind = .template)
    (hsteady : s.Steady (.move direction resolver)) (i : Nat) :
    (s.move direction resolver).own i = s.own i := by
  unfold own
  rw [htidy.files_move hkind hsteady]

/-- A move stores what was on disk for the task that it leaves, and touches what is stored for no
other. -/
theorem Tidy.kept_move (htidy : s.Tidy arena) (hkind : s.lesson.kind = .template)
    (hsteady : s.Steady (.move direction resolver)) (i : Nat) :
    (s.move direction resolver).kept i
      = if s.lesson.current = i ∧ (s.lesson.move direction).isOk then s.onDisk else s.kept i := by
  unfold kept
  rw [htidy.own_move hkind hsteady]
  cases hway : s.lesson.move direction with
  | error error =>
    rw [move_of_error hway, if_neg (fun h => Bool.false_ne_true h.2)]
  | ok way =>
    obtain ⟨given, after, hmade⟩ := htidy.move_of_steady hkind hway hsteady
    rw [hmade]
    unfold lastSave
    rw [FileState.lookup_entry_cons]
    by_cases hi : s.lesson.current = i
    · rw [if_pos hi.symm, if_pos ⟨hi, rfl⟩, ← hi, own_source hway, Option.getD_some,
        FileState.replay_diff]
    · rw [if_neg (Ne.symm hi), if_neg fun h => hi h.1]

/-- The current task is the target then, and what is stored for it still is. -/
theorem Tidy.move_entered (htidy : s.Tidy arena) (hkind : s.lesson.kind = .template)
    {way : s.lesson.Move} (hway : s.lesson.move direction = .ok way)
    (hsteady : s.Steady (.move direction resolver)) :
    (s.move direction resolver).lesson.current = way.target ∧
      (s.move direction resolver).own (s.move direction resolver).lesson.current
        = way.enters.files ∧
      (s.move direction resolver).kept (s.move direction resolver).lesson.current
        = s.goal way := by
  have hcurrent : (s.move direction resolver).lesson.current = way.target := by
    obtain ⟨given, after, hmade⟩ := htidy.move_of_steady hkind hway hsteady
    rw [hmade]
    rfl
  have hne := Lesson.Move.source_ne_target hway
  rw [(Lesson.way_of_move hway).1] at hne
  rw [hcurrent, htidy.own_move hkind hsteady, htidy.kept_move hkind hsteady, goal_eq_kept,
    if_neg fun h => hne h.1]
  refine ⟨rfl, ?_, rfl⟩
  unfold own
  rw [way.enters_eq]
  rfl

/-- After any moves that is stored for a task which was captured when it was last left, or, if it
never was, what was stored for it before. -/
theorem Tidy.kept_travel (htidy : s.Tidy arena) (hkind : s.lesson.kind = .template)
    (hsteady : s.SteadyAlong moves) (i : Nat) :
    (∃ next, (s.travel moves).Tidy next) ∧
      (s.travel moves).lesson.tasks[i]?.map Task.files = s.lesson.tasks[i]?.map Task.files ∧
      (s.travel moves).kept i = (s.departures i moves).getLast?.getD (s.kept i) := by
  induction moves generalizing s arena with
  | nil => exact ⟨⟨arena, htidy⟩, rfl, rfl⟩
  | cons first rest ih =>
    obtain ⟨direction, resolver⟩ := first
    obtain ⟨hfirst, hrest⟩ := hsteady
    obtain ⟨next, hnext⟩ := htidy.exists_tidy_move direction resolver
    obtain ⟨hlast, hfiles, hkept⟩ :=
      ih hnext ((kind_perform s (.move direction resolver)).trans hkind) hrest
    refine ⟨hlast, hfiles.trans (htidy.files_move hkind hfirst i), hkept.trans ?_⟩
    rw [htidy.kept_move hkind hfirst, departures]
    split
    · rw [List.getLast?_cons]
      rfl
    · rfl

/-! ## Visits -/

variable [StepwiseWorkspace ω] {files : FileState} {way : s.lesson.Move}

/-- What can be captured of the current task comes of what is stored for it. -/
def Arrived (s : Work σ ω) : Prop :=
  Nonempty (Visit (s.own s.lesson.current) (s.kept s.lesson.current) s.onDisk)

/-- What is captured in a move has only files of the task that is left, so that nothing else is
stored either. -/
theorem Tidy.admitting_move (htidy : s.Tidy arena) (hkind : s.lesson.kind = .template)
    (hway : s.lesson.move direction = .ok way) (hsteady : s.Steady (.move direction resolver))
    (hfiles : StepwiseWorkspace.Has s.workspace files) (hadmits : s.Admitting)
    (hstill : ∀ path, StepwiseWorkspace.Admits s.workspace path →
      StepwiseWorkspace.Admits (s.move direction resolver).workspace path) :
    (s.move direction resolver).Admitting := by
  refine ⟨?_, ?_⟩
  · intro i path hpath
    rw [htidy.own_move hkind hsteady] at hpath
    exact hstill path (hadmits.own i path hpath)
  · intro i path hpath
    rw [htidy.kept_move hkind hsteady] at hpath
    split at hpath
    · apply hstill path
      apply hadmits.leaves hway
      unfold FileState.contains at hpath
      rw [get?_onDisk_of_has hway hfiles (hadmits.leaves hway)] at hpath
      by_contra hother
      rw [if_neg hother] at hpath
      cases hpath
    · exact hstill path (hadmits.kept i path hpath)

theorem Tidy.exists_visit (htidy : s.Tidy arena) (hkind : s.lesson.kind = .template)
    (hway : s.lesson.move direction = .ok way) (hsteady : s.Steady (.move direction resolver))
    (hfiles : StepwiseWorkspace.Has s.workspace files) (hadmits : s.Admitting) :
    ∃ visit : Visit way.enters.files (s.goal way) (s.move direction resolver).onDisk,
      visit.left = way.leaves.files ∧ visit.files = files ∧
      ((Navigator.prepare s.lesson s.store s.workspace direction resolver).result.isOk = true →
        visit.undone = []) ∧
      StepwiseWorkspace.Has (s.move direction resolver).workspace (files.replay visit.done) ∧
      (s.move direction resolver).Admitting ∧ (s.move direction resolver).Arrived := by
  obtain ⟨done, undone, hsplit, hall, hhas, hstill⟩ :=
    htidy.exists_done hkind hway hsteady hfiles (hadmits.leaves hway) (hadmits.goal way)
  have hafter := htidy.admitting_move hkind hway hsteady hfiles hadmits hstill
  obtain ⟨-, hentered, hkept⟩ := htidy.move_entered hkind hway hsteady
  let visit : Visit way.enters.files (s.goal way) (s.move direction resolver).onDisk :=
    { left := way.leaves.files
      files := files
      onDisk := s.onDisk
      done := done
      undone := undone
      get?_onDisk := get?_onDisk_of_has hway hfiles (hadmits.leaves hway)
      diff_eq := hsplit
      get?_after := by
        intro path
        rw [get?_onDisk_own, hentered]
        split
        · rename_i hpath
          rw [← hentered] at hpath
          exact StepwiseWorkspace.text?_eq hhas (hafter.own _ path hpath)
        · rfl }
  refine ⟨visit, rfl, rfl, hall, hhas, hafter, ?_⟩
  unfold Arrived
  rw [hentered, hkept]
  exact ⟨visit⟩

/-- On moves that follow a move into a task, what is captured of any task comes each time of what
was stored for it before. -/
theorem Tidy.isChain_departures (htidy : s.Tidy arena) (hkind : s.lesson.kind = .template)
    (hfiles : StepwiseWorkspace.Has s.workspace files) (hadmits : s.Admitting)
    (harrived : s.Arrived) (hsteady : s.SteadyAlong moves) (i : Nat) :
    (s.kept i :: s.departures i moves).IsChain
      fun before after => Nonempty (Visit (s.own i) before after) := by
  induction moves generalizing s arena files with
  | nil => exact List.IsChain.singleton _
  | cons first rest ih =>
    obtain ⟨direction, resolver⟩ := first
    obtain ⟨hfirst, hrest⟩ := hsteady
    unfold departures
    cases hway : s.lesson.move direction with
    | error error =>
      rw [move_of_error hway] at hrest ⊢
      rw [if_neg (fun h => Bool.false_ne_true h.2)]
      exact ih htidy hkind hfiles hadmits harrived hrest
    | ok way =>
      obtain ⟨visit, -, -, -, hhas, hafter, hthere⟩ :=
        htidy.exists_visit hkind hway hfirst hfiles hadmits
      obtain ⟨next, hnext⟩ := htidy.exists_tidy_move direction resolver
      have hlater := ih hnext ((kind_perform s (.move direction resolver)).trans hkind) hhas hafter
        hthere hrest
      rw [htidy.own_move hkind hfirst, htidy.kept_move hkind hfirst, hway] at hlater
      by_cases hi : s.lesson.current = i
      · rw [if_pos ⟨hi, rfl⟩] at hlater ⊢
        exact List.isChain_cons_cons.2 ⟨hi ▸ harrived, hlater⟩
      · rw [if_neg fun h => hi h.1] at hlater ⊢
        exact hlater

/-- A move in a template, stopped or not, and any moves after it, with no edit: what is stored for
its target in the end was captured when the target was last left, or is what was stored before, and
every visit of the target, from this first one on, makes it of what was stored. -/
theorem what_a_stopped_move_costs_its_target_after_any_moves {lesson : Lesson} {store : σ}
    {workspace : ω} (hkind : lesson.kind = .template)
    (hunsaved : ∀ task ∈ lesson.tasks, task.record = none) (hholds : SafeLog.Holds store arena)
    (hrun : (start lesson store workspace).Run Possible s)
    (hway : s.lesson.move direction = .ok way)
    (hsteady : s.SteadyAlong ((direction, resolver) :: moves))
    (hfiles : StepwiseWorkspace.Has s.workspace files) (hadmits : s.Admitting) :
    ∃ visit : Visit way.enters.files (s.goal way) (s.move direction resolver).onDisk,
      visit.left = way.leaves.files ∧ visit.files = files ∧
      ((Navigator.prepare s.lesson s.store s.workspace direction resolver).result.isOk = true →
        visit.undone = []) ∧
      s.Keeps way.target (s.goal way) ∧
      (s.travel ((direction, resolver) :: moves)).Keeps way.target
        (((s.move direction resolver).departures way.target moves).getLast?.getD (s.goal way)) ∧
      (∀ first ∈ ((s.move direction resolver).departures way.target moves).head?,
        first = (s.move direction resolver).onDisk) ∧
      (s.goal way :: (s.move direction resolver).departures way.target moves).IsChain
        fun before after => Nonempty (Visit way.enters.files before after) := by
  obtain ⟨held, htidy, -⟩ :=
    hrun.exists_tidy (fun _ _ h => h) (tidy_start hunsaved hholds workspace)
  replace hkind := hrun.kind_eq.trans hkind
  obtain ⟨hfirst, hrest⟩ := hsteady
  obtain ⟨visit, hleft, hold, hall, hhas, hafter, hthere⟩ :=
    htidy.exists_visit hkind hway hfirst hfiles hadmits
  obtain ⟨hcurrent, hown, hkept⟩ := htidy.move_entered hkind hway hfirst
  obtain ⟨next, hnext⟩ := htidy.exists_tidy_move direction resolver
  have hkind' := (kind_perform s (.move direction resolver)).trans hkind
  obtain ⟨⟨last, hlast⟩, hsame, hend⟩ := hnext.kept_travel hkind' hrest way.target
  have hchain := hnext.isChain_departures hkind' hhas hafter hthere hrest way.target
  rw [hcurrent] at hown hkept
  rw [hkept] at hend hchain
  rw [hown] at hchain
  have hhead := (s.move direction resolver).head?_departures moves
  rw [hcurrent] at hhead
  refine ⟨visit, hleft, hold, hall, htidy.keeps way.enters_eq, ?_, hhead, hchain⟩
  have htarget : (s.travel ((direction, resolver) :: moves)).lesson.tasks[(way.target : Nat)]?.map
      Task.files = some way.enters.files := by
    rw [travel, hsame, htidy.files_move hkind hfirst, way.enters_eq]
    rfl
  rw [← hend]
  exact hlast.keeps_kept htarget

/-- Two more visits bring nothing back of the file that could not be written. -/
example : (blocked.move .next (.always .keep)).departures 1
    [(.previous, .always .keep), (.next, .always .keep), (.previous, .always .keep)]
      = [.ofList [("a", "z")], .ofList [("a", "z")]] := by
  decide +kernel

end

end Work

end LessonHistory
