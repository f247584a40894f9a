-- What is stored for a task fits its files: what it adds is not among them, what it removes or
-- overwrites is. The files of a stage can be altered by a move that enters it, while what is
-- stored for it stays. Only a replacement makes the two part.
import LessonHistory.Proofs.Lesson.Records
import LessonHistory.Proofs.Lesson.Split

namespace LessonHistory

/-- Changes that fit the files of a task, when files at the paths `taken` were taken from it. -/
structure FileState.Suits (files : FileState) (changes : List Change) (taken : String → Prop) :
    Prop where
  once : (changes.map Change.path).Nodup
  adds : ∀ path text, .addFile path text ∈ changes → files.contains path = false
  removes : ∀ path, .removeFile path ∈ changes → files.contains path = true
  overwrites : ∀ path text, .changeFile path text ∈ changes →
    (files.contains path = false ↔ taken path)

namespace FileState

variable {a b files : FileState} {changes : List Change} {path text : String}

/-! ## The changes between two states -/

theorem removeTaskFile_not_mem_diff : .removeTaskFile path ∉ a.diff b := by
  intro h
  cases (of_mem_diff h).2.2

/-- The changes between two parts of states fit any files that have all of the first part, and
nothing of the second but what the first has too. -/
theorem suits_diff (hin : ∀ path, a.contains path = true → files.contains path = true)
    (hout : ∀ path, b.contains path = true → a.contains path = false →
      files.contains path = false) : files.Suits (a.diff b) fun _ => False where
  once := nodup_diff a b
  adds path text h := by
    obtain ⟨hold, hnew⟩ := mem_diff_iff.1 h
    exact hout path (contains_iff.2 ⟨text, hnew⟩) (not_contains_iff.2 hold)
  removes path h := by
    obtain ⟨hold, -⟩ := mem_diff_iff.1 h
    exact hin path (contains_iff.2 hold)
  overwrites path text h := by
    obtain ⟨⟨old, hold, -⟩, -⟩ := mem_diff_iff.1 h
    simp [hin path (contains_iff.2 ⟨old, hold⟩)]

/-- The files that are taken do no harm where none is there any longer. -/
theorem Suits.of_taken {taken : String → Prop} (h : files.Suits changes fun _ => False)
    (htaken : ∀ path, taken path → files.contains path = false) : files.Suits changes taken where
  once := h.once
  adds := h.adds
  removes := h.removes
  overwrites path text hchange := by
    have hin := h.overwrites path text hchange
    exact ⟨fun hout => (hin.1 hout).elim, htaken path⟩

theorem Suits.congr {taken other : String → Prop} (h : files.Suits changes taken)
    (hiff : ∀ path, taken path ↔ other path) : files.Suits changes other where
  once := h.once
  adds := h.adds
  removes := h.removes
  overwrites path text hchange := (h.overwrites path text hchange).trans (hiff path)

end FileState

/-! ## What a move makes of it -/

namespace Propagation

variable {classifier : Classifier} {current goal : FileState} {path : String}

/-- Carrying files along takes from the target what it has and the learner has not. -/
theorem removeTaskFile_mem_structural_iff :
    .removeTaskFile path ∈ structural classifier current goal ↔
      classifier.isTest path = false ∧ current.contains path = false ∧
        goal.contains path = true := by
  rw [mem_structural_iff, FileState.not_contains_iff, FileState.contains_iff]
  constructor
  · rintro (h | ⟨other, text, -, -, -, heq⟩ | ⟨other, text, htask, hgoal, hcurrent, heq⟩)
    · exact absurd h FileState.removeTaskFile_not_mem_diff
    · cases heq
    · cases heq
      exact ⟨htask, hcurrent, text, hgoal⟩
  · rintro ⟨htask, hcurrent, text, hgoal⟩
    exact .inr (.inr ⟨path, text, htask, hgoal, hcurrent, rfl⟩)

end Propagation

namespace Navigator

variable {files current goal : FileState} {path : String}

theorem changesBetween_diff_or_structural (lesson : Lesson) (direction : Direction)
    (source target : Task) (current goal : FileState) (resolver : Resolver) :
    let propagation := changesBetween lesson direction source target current goal resolver
    (∃ a b : FileState, propagation.changes = a.diff b) ∨
      ((target.record = none ∨ propagation.asked ≠ []) ∧
        propagation.changes = Propagation.structural lesson.classifier current goal) := by
  rcases changesBetween_cases lesson direction source target current goal resolver with
    heq | ⟨-, heq⟩ | ⟨-, -, hcarried, heq⟩
  · exact .inl ⟨_, _, heq⟩
  · exact .inl ⟨_, _, heq⟩
  · refine .inr ⟨hcarried.imp_right ?_, heq⟩
    rintro ⟨conflict, hconflict, -⟩
    exact List.ne_nil_of_mem hconflict

theorem not_contains_of_removeTaskFile (lesson : Lesson) (direction : Direction)
    (source target : Task) (resolver : Resolver)
    (h : .removeTaskFile path
      ∈ (changesBetween lesson direction source target current goal resolver).changes) :
    (files.replayStructural
      (changesBetween lesson direction source target current goal resolver).changes).contains path
      = false := by
  rcases changesBetween_diff_or_structural lesson direction source target current goal resolver
    with ⟨a, b, heq⟩ | ⟨-, heq⟩
  · rw [heq] at h
    exact absurd h FileState.removeTaskFile_not_mem_diff
  · rw [heq] at h ⊢
    obtain ⟨htask, hcurrent, hgoal⟩ := Propagation.removeTaskFile_mem_structural_iff.1 h
    simp [Propagation.contains_replayStructural_structural_eq, htask, hcurrent, hgoal]

/-- After a move the stored changes of its target still fit, but for the overwriting of files
that a replacement took from the target. -/
theorem suits_replayStructural {stored : List Change}
    (hsuits : files.Suits stored fun _ => False) (lesson : Lesson) (direction : Direction)
    (source : Task) {target : Task} (hrecord : target.record ≠ none) (resolver : Resolver) :
    let propagation := changesBetween lesson direction source target current
      (files.replay stored) resolver
    (files.replayStructural propagation.changes).Suits stored fun path =>
      propagation.asked ≠ [] ∧ .removeTaskFile path ∈ propagation.changes := by
  intro propagation
  rcases changesBetween_diff_or_structural lesson direction source target current
    (files.replay stored) resolver with ⟨a, b, heq⟩ | ⟨hcarried, heq⟩
  · rw [show propagation.changes = _ from heq, FileState.replayStructural_diff]
    simpa [FileState.removeTaskFile_not_mem_diff] using hsuits
  have hasked : propagation.asked ≠ [] := hcarried.resolve_left hrecord
  have hcontains := Propagation.contains_replayStructural_structural_eq lesson.classifier current
    (files.replay stored) files
  have hgoal : ∀ change ∈ stored,
      (files.replay stored).contains change.path = change.text?.isSome := by
    intro change hchange
    exact congrArg Option.isSome (FileState.get?_replay_of_once hsuits.once hchange files)
  rw [show propagation.changes = _ from heq]
  refine ⟨hsuits.once, ?_, ?_, ?_⟩
  · intro path text h
    have hpath : (files.replay stored).contains path = true := hgoal _ h
    rw [hcontains, hpath, hsuits.adds path text h]
    simp
  · intro path h
    have hpath : (files.replay stored).contains path = false := hgoal _ h
    rw [hcontains, hpath, hsuits.removes path h]
    simp
  · intro path text h
    have hpath : (files.replay stored).contains path = true := hgoal _ h
    have hin : files.contains path = true := by
      simpa using hsuits.overwrites path text h
    rw [hcontains, Propagation.removeTaskFile_mem_structural_iff, hpath, hin]
    simp [hasked]

end Navigator

/-! ## What fits in the work on a lesson -/

namespace Work

variable {σ ω : Type} {s : Work σ ω} {arena : Arena}

/-- The files that the last move took from a task, the current one, after a conflict. -/
def Taken (s : Work σ ω) (i : Nat) (path : String) : Prop :=
  i = s.lesson.current ∧ s.passage.asked ≠ [] ∧ .removeTaskFile path ∈ s.passage.changes

/-- What is stored fits the files of the tasks, but for the overwriting of files that were
taken. -/
structure Fitting (s : Work σ ω) : Prop where
  fits : ∀ (i : Nat) (task : Task) (changes : List Change), s.lesson.tasks[i]? = some task →
    s.lastSave i = some changes → task.files.Suits changes (s.Taken i)
  gone : ∀ (i : Nat) (task : Task) (path : String), s.lesson.tasks[i]? = some task →
    s.Taken i path → task.files.contains path = false

theorem not_taken_of_ne {i : Nat} (h : i ≠ s.lesson.current) (path : String) : ¬ s.Taken i path :=
  fun htaken => h htaken.1

theorem fitting_start (lesson : Lesson) (store : σ) (workspace : ω) :
    Fitting (start lesson store workspace) where
  fits i task changes _ hsave := by cases hsave
  gone i task path _ htaken := absurd rfl htaken.2.1

theorem lookup_noteSave {i index : Nat} {new changes : List Change}
    {outcome : Except StoreError Record × σ}
    (h : (s.noteSave index new outcome).lookup i = some changes) :
    (i = index ∧ new = changes) ∨ s.lastSave i = some changes := by
  unfold noteSave at h
  split at h
  · rw [FileState.lookup_entry_cons] at h
    split at h
    · rename_i hi
      exact .inl ⟨hi, Option.some.inj h⟩
    · exact .inr h
  · exact .inr h

variable [ChangeLog σ]

theorem Fitting.external (h : s.Fitting) (index : Nat) (solution : FileState) :
    (s.external index solution).Fitting := by
  cases hfound : s.lesson.tasks[index]? with
  | none =>
    unfold Work.external
    rw [hfound]
    exact h
  | some old =>
    rw [external_eq hfound]
    constructor
    · intro i task changes htask hsave
      rw [Lesson.getElem?_withTask hfound] at htask
      have hfiles : ∃ same : Task, s.lesson.tasks[i]? = some same ∧ same.files = task.files := by
        split at htask
        · rename_i hi
          cases htask
          exact ⟨old, hi ▸ hfound, rfl⟩
        · exact ⟨task, htask, rfl⟩
      obtain ⟨same, hsame, hfiles⟩ := hfiles
      rw [← hfiles]
      rcases lookup_noteSave hsave with ⟨hi, rfl⟩ | hold
      · rw [hi, hfound] at hsame
        cases hsame
        refine (FileState.suits_diff ?_ ?_).of_taken fun path => h.gone i old path (hi ▸ hfound)
        · intro path hin
          rw [Classifier.taskFiles, FileState.contains_filter, Bool.and_eq_true] at hin
          exact hin.2
        · intro path hnew hout
          rw [Classifier.taskFiles, FileState.contains_filter, Bool.and_eq_true] at hnew
          rw [Classifier.taskFiles, FileState.contains_filter, hnew.1, Bool.true_and] at hout
          exact hout
      · exact h.fits i same changes hsame hold
    · intro i task path htask htaken
      rw [Lesson.getElem?_withTask hfound] at htask
      split at htask
      · rename_i hi
        cases htask
        exact h.gone i old path (hi ▸ hfound) htaken
      · exact h.gone i task path htask htaken

variable [SafeLog σ]

theorem Fitting.transition (h : s.Fitting) (htidy : s.Tidy arena) {direction : Direction}
    {onDisk : FileState} {resolver : Resolver}
    (hsteady : ∀ passed, Navigator.transition s.lesson s.store direction onDisk resolver
      = .ok passed → passed.notices = []) :
    (s.transition direction onDisk resolver).Fitting := by
  cases hway : s.lesson.move direction with
  | error error =>
    rw [transition_of_error hway]
    exact h
  | ok way =>
    obtain ⟨given, after, hmade⟩ := htidy.transition_of_steady hway hsteady
    have hsource := (Lesson.way_of_move hway).1
    have hne : (way.target : Nat) ≠ s.lesson.current :=
      hsource ▸ (Lesson.Move.source_ne_target hway).symm
    rw [hmade]
    constructor
    · intro i task changes htask hsave
      unfold lastSave at hsave
      rw [FileState.lookup_entry_cons] at hsave
      rw [Lesson.Move.getElem?_crossed hway, hsource] at htask
      split at htask
      · -- The target: nothing was stored for it, but the move may alter its files.
        rename_i htarget
        subst htarget
        rw [if_neg hne] at hsave
        cases htask
        obtain ⟨record, hrecord, -⟩ := (htidy.stored _ _).1 hsave
        rw [Lesson.record?_of_getElem? way.enters_eq] at hrecord
        have hfits := (h.fits _ _ _ way.enters_eq hsave).congr fun path =>
          iff_false_intro (not_taken_of_ne hne path)
        unfold goal
        rw [show s.lastSave way.target = some changes from hsave, Option.getD_some]
        exact (Navigator.suits_replayStructural hfits s.lesson direction way.leaves
          (hrecord ▸ Option.some_ne_none record) resolver).congr fun path =>
            (and_iff_right rfl).symm
      · rename_i htarget
        split at htask
        · rename_i hi
          rw [if_pos hi] at hsave
          cases htask
          cases hsave
          exact (FileState.suits_diff (fun _ hin => hin) fun _ _ hout => hout).congr fun path =>
            (iff_false_intro (not_taken_of_ne htarget path)).symm
        · rename_i hi
          rw [if_neg hi] at hsave
          exact (h.fits i task changes htask hsave).congr fun path =>
            iff_of_false (not_taken_of_ne hi path) (not_taken_of_ne htarget path)
    · rintro i task path htask ⟨htarget, -, hremove⟩
      rw [Lesson.Move.getElem?_crossed hway, if_pos (show i = way.target from htarget)] at htask
      cases htask
      exact Navigator.not_contains_of_removeTaskFile _ _ _ _ _ hremove

variable [Workspace ω]

theorem Fitting.perform (h : s.Fitting) (htidy : s.Tidy arena) {deed : Deed σ ω}
    (hsteady : s.Steady deed) : (s.perform deed).Fitting := by
  cases deed with
  | move direction resolver =>
    have hmove := h.transition htidy hsteady
    rw [Work.perform, move_eq]
    exact ⟨hmove.fits, hmove.gone⟩
  | transition direction onDisk resolver => exact h.transition htidy hsteady
  | external index solution => exact h.external index solution
  | rebase index baseline => exact hsteady.elim
  | replace index files => exact hsteady.elim
  | edit workspace => exact ⟨h.fits, h.gone⟩
  | fault store => exact ⟨h.fits, h.gone⟩

/-- What is stored for a task fits its files all through steady work: no path occurs twice, what
is added is not among the files of the task, and what is removed is. What is overwritten is among
them too, but for the files that a replacement has just taken from the current task. -/
theorem what_is_stored_fits_but_for_the_files_that_a_replacement_took {lesson : Lesson} {store : σ}
    {workspace : ω} (hunsaved : ∀ task ∈ lesson.tasks, task.record = none)
    (hholds : SafeLog.Holds store arena)
    (hrun : (start lesson store workspace).Run Steady s) :
    ∃ held : Arena, SafeLog.Holds s.store held ∧
      ∀ (i : Nat) (task : Task) (record : Record), s.lesson.tasks[i]? = some task →
        task.record = some record →
          ∃ stored, held.changes (some record) = .ok stored ∧
            (∀ found, ChangeLog.changes s.store (some record) = .ok found → found = stored) ∧
            task.files.Suits stored (s.Taken i) := by
  have hall : ∃ held : Arena, s.Tidy held ∧ s.Fitting := by
    induction hrun with
    | start => exact ⟨arena, tidy_start hunsaved hholds workspace, fitting_start _ _ _⟩
    | step before deed hsteady ih =>
      obtain ⟨held, htidy, hfitting⟩ := ih
      obtain ⟨next, hnext, -⟩ :=
        (does_perform htidy.holds hsteady.possible).exists_tidy htidy
      exact ⟨next, hnext, hfitting.perform htidy hsteady⟩
  obtain ⟨held, htidy, hfitting⟩ := hall
  refine ⟨held, htidy.holds, ?_⟩
  intro i task record htask hrecord
  obtain ⟨stored, hsave, hstored, hfound⟩ :=
    htidy.exists_save ((Lesson.record?_of_getElem? htask).trans hrecord)
  exact ⟨stored, hstored, hfound, hfitting.fits i task stored htask hsave⟩

/-- The work on two stages after a solution for the second was stored, and the second was then
entered with its files replaced by those of the first. -/
def replaced : Work Arena MemoryWorkspace :=
  ((start (.twoStages .staged) Arena.empty ⟨.ofList [("a", "x")]⟩).perform
    (.external 1 (.ofList [("a", "x"), ("b", "z")]))).perform (.move .next (.always .replace))

theorem run_replaced :
    (start (.twoStages .staged) Arena.empty ⟨.ofList [("a", "x")]⟩).Run Steady replaced := by
  refine (Run.start.step (.external 1 _) trivial).step (.move .next _) ?_
  intro passed hmade
  cases hmade
  rfl

/-- The solution overwrites a file that the replacement then took from the second stage. -/
theorem a_solution_fits_but_for_the_file_that_was_taken :
    ∃ stored, replaced.store.changes (some .first) = .ok stored ∧
      (FileState.ofList [("a", "x")]).Suits stored (replaced.Taken 1) := by
  obtain ⟨held, hheld, hfits⟩ :=
    what_is_stored_fits_but_for_the_files_that_a_replacement_took
      (Lesson.record_twoStages .staged) rfl run_replaced
  obtain rfl : replaced.store = held := hheld
  obtain ⟨stored, hstored, -, hsuits⟩ := hfits 1 _ .first rfl rfl
  exact ⟨stored, hstored, hsuits⟩

/-- What is stored overwrites a file that the second stage no longer has. -/
theorem a_taken_file_is_still_overwritten_in_what_is_stored :
    (start (.twoStages .staged) Arena.empty ⟨.ofList [("a", "x")]⟩).Run Steady replaced ∧
      replaced.store.changes (some .first) = .ok [.changeFile "b" "z"] ∧
      (replaced.lesson.tasks[1]?.map fun task => (task.record, task.files))
        = some (some .first, .ofList [("a", "x")]) := by
  refine ⟨run_replaced, ?_, ?_⟩
  · decide
  · decide

end Work

end LessonHistory
