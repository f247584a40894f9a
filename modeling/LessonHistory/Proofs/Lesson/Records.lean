-- The records of the tasks. However the store, the workspace and the learner behave, every task
-- keeps the record that it was once given, no two tasks have the same one, and under it the store
-- holds what it last took for the task.
import LessonHistory.Proofs.Lesson.Work

namespace LessonHistory

namespace Lesson

variable {lesson : Lesson} {index : Nat} {task : Task}

theorem record?_of_getElem? {i : Nat} (h : lesson.tasks[i]? = some task) :
    lesson.record? i = task.record := by
  unfold record?
  rw [h]
  rfl

theorem getElem?_withTask (h : lesson.tasks[index]? = some task) (new : Task) (i : Nat) :
    (lesson.withTask index new).tasks[i]? = if i = index then some new else lesson.tasks[i]? := by
  obtain ⟨hlt, -⟩ := List.getElem?_eq_some_iff.1 h
  unfold withTask
  simp only [List.getElem?_set]
  by_cases hi : i = index
  · simp [hi, hlt]
  · simp [hi, Ne.symm hi]

theorem record?_withTask (h : lesson.tasks[index]? = some task) (new : Task) (i : Nat) :
    (lesson.withTask index new).record? i
      = if i = index then new.record else lesson.record? i := by
  unfold record?
  rw [getElem?_withTask h]
  split
  · rfl
  · rfl

theorem Move.record?_crossed {direction : Direction} {way : lesson.Move}
    (h : lesson.move direction = .ok way) (saved : Task) (changes : List Change) (i : Nat) :
    (way.crossed saved changes).record? i
      = if i = lesson.current then saved.record else lesson.record? i := by
  have hne := source_ne_target h
  rw [← (way_of_move h).1]
  unfold record?
  rw [getElem?_crossed h]
  by_cases htarget : i = way.target
  · rw [if_pos htarget, htarget, if_neg hne.symm, way.enters_eq]
    rfl
  · rw [if_neg htarget]
    split
    · rfl
    · rfl

end Lesson

namespace Work

variable {σ ω : Type} [ChangeLog σ] [SafeLog σ] {s after : Work σ ω} {arena : Arena}

/-! ## What a deed can do -/

/-- Nothing that is stored has changed, and no record. -/
structure Rests (s after : Work σ ω) (arena : Arena) : Prop where
  holds : SafeLog.Holds after.store arena
  record? : ∀ i, after.lesson.record? i = s.lesson.record? i
  lastSave : ∀ i, after.lastSave i = s.lastSave i

/-- Changes were stored for one task, under its record, or under a new one that it then has. -/
structure Stores (s after : Work σ ω) (arena : Arena) (index : Nat) (given : Record)
    (changes : List Change) : Prop where
  claim : Record.claim arena.slots.length (s.lesson.record? index) = .ok given
  holds : SafeLog.Holds after.store (arena.put (given, changes))
  record? : ∀ i, after.lesson.record? i = if i = index then some given else s.lesson.record? i
  lastSave : ∀ i, after.lastSave i = if i = index then some changes else s.lastSave i

/-- What one deed may do to what is stored. -/
def Does (s after : Work σ ω) (arena : Arena) : Prop :=
  Rests s after arena ∨ ∃ index given changes, Stores s after arena index given changes

/-- An update of the store for one task, whatever came of it. -/
theorem does_of_explained (index : Nat) {changes : List Change}
    {outcome : Except StoreError Record × σ}
    (hexplained : arena.Explains SafeLog.Holds (s.lesson.record? index) changes outcome)
    (hstore : after.store = outcome.2)
    (hrecord : ∀ i, after.lesson.record? i = if i = index
      then outcome.1.toOption.or (s.lesson.record? index) else s.lesson.record? i)
    (hsaves : after.saves = s.noteSave index changes outcome) : Does s after arena := by
  rcases outcome with ⟨error | given, store⟩
  · refine .inl ⟨hstore ▸ hexplained, ?_, ?_⟩
    · intro i
      rw [hrecord]
      split
      · rename_i hi
        rw [hi]
        rfl
      · rfl
    · intro i
      unfold lastSave
      rw [hsaves]
      rfl
  · obtain ⟨hclaim, hholds⟩ := hexplained
    refine .inr ⟨index, given, changes, hclaim, hstore ▸ hholds, hrecord, ?_⟩
    intro i
    unfold lastSave
    rw [hsaves]
    exact FileState.lookup_entry_cons i (index, changes) s.saves

theorem does_transition (hholds : SafeLog.Holds s.store arena) (direction : Direction)
    (onDisk : FileState) (resolver : Resolver) :
    Does s (s.transition direction onDisk resolver) arena := by
  rcases s.transition_cases direction onDisk resolver with ⟨error, -, hsame⟩ |
    ⟨way, error, store, hway, hwritten, hmade⟩ | ⟨way, given, store, hway, hwritten, hmade⟩
  · rw [hsame]
    exact .inl ⟨hholds, fun i => rfl, fun i => rfl⟩
  all_goals
    have hrecord := Lesson.record?_of_getElem? way.leaves_eq
    rw [(Lesson.way_of_move hway).1] at hrecord
    have hexplained := SafeLog.updateAndForce_explained hholds (s.lesson.record? s.lesson.current)
      (way.leaves.files.diff onDisk)
    rw [hrecord, hwritten, ← hrecord] at hexplained
    rw [hmade]
  · refine does_of_explained s.lesson.current hexplained rfl ?_ rfl
    intro i
    rw [Lesson.Move.record?_crossed hway, hrecord]
    rfl
  · refine does_of_explained s.lesson.current hexplained rfl ?_ rfl
    intro i
    rw [Lesson.Move.record?_crossed hway]
    rfl

theorem does_external (hholds : SafeLog.Holds s.store arena) (index : Nat)
    (solution : FileState) : Does s (s.external index solution) arena := by
  cases htask : s.lesson.tasks[index]? with
  | none =>
    unfold external
    rw [htask]
    exact .inl ⟨hholds, fun i => rfl, fun i => rfl⟩
  | some task =>
    have hrecord := Lesson.record?_of_getElem? htask
    rw [external_eq htask, ← hrecord]
    refine does_of_explained index (SafeLog.update_explained hholds _ _) rfl ?_ rfl
    intro i
    rw [Lesson.record?_withTask htask]

theorem does_rebase (hholds : SafeLog.Holds s.store arena) (index : Nat) (baseline : FileState) :
    Does s (s.rebase index baseline) arena := by
  rcases s.rebase_cases index baseline with hsame | ⟨record, stored, hrecord, -, hmade⟩
  · rw [hsame]
    exact .inl ⟨hholds, fun i => rfl, fun i => rfl⟩
  · have hexplained := SafeLog.update_explained hholds (some record) (baseline.rebase stored)
    rw [hmade]
    refine does_of_explained index (hrecord ▸ hexplained) rfl ?_ rfl
    -- Changes that are stored under a record that the task has stay under that record.
    intro i
    split
    · rename_i hi
      rw [hi, hrecord]
      rcases hupdate : ChangeLog.update s.store (some record) (baseline.rebase stored)
        with ⟨error | given, store⟩
      · rfl
      · rw [hupdate] at hexplained
        rcases Record.claim_cases hexplained.1 with ⟨hsame, -⟩ | ⟨hnone, -⟩
        · exact hsame
        · cases hnone
    · rfl

theorem does_replace (hholds : SafeLog.Holds s.store arena) (index : Nat) (files : FileState) :
    Does s (s.replace index files) arena := by
  unfold replace
  cases htask : s.lesson.tasks[index]? with
  | none => exact .inl ⟨hholds, fun i => rfl, fun i => rfl⟩
  | some task =>
    refine .inl ⟨hholds, ?_, fun i => rfl⟩
    intro i
    simp only
    rw [Lesson.record?_withTask htask]
    split
    · rename_i hi
      rw [hi, Lesson.record?_of_getElem? htask]
    · rfl

theorem does_perform [Workspace ω] (hholds : SafeLog.Holds s.store arena) {deed : Deed σ ω}
    (hpossible : s.Possible deed) : Does s (s.perform deed) arena := by
  cases deed with
  | move direction resolver =>
    rw [perform, move_eq]
    rcases does_transition hholds direction s.onDisk resolver with ⟨hholds, hrecord, hsave⟩ |
      ⟨index, given, changes, hclaim, hholds, hrecord, hsave⟩
    · exact .inl ⟨hholds, hrecord, hsave⟩
    · exact .inr ⟨index, given, changes, hclaim, hholds, hrecord, hsave⟩
  | transition direction onDisk resolver => exact does_transition hholds direction onDisk resolver
  | external index solution => exact does_external hholds index solution
  | rebase index baseline => exact does_rebase hholds index baseline
  | replace index files => exact does_replace hholds index files
  | edit workspace => exact .inl ⟨hholds, fun i => rfl, fun i => rfl⟩
  | fault store => exact .inl ⟨hpossible arena hholds, fun i => rfl, fun i => rfl⟩

/-! ## What holds all the time -/

/-- What holds of the records at any time, when the store holds what `arena` holds. -/
structure Tidy (s : Work σ ω) (arena : Arena) : Prop where
  holds : SafeLog.Holds s.store arena
  issued : ∀ i record, s.lesson.record? i = some record → record.index < arena.slots.length
  distinct : ∀ i j record, s.lesson.record? i = some record →
    s.lesson.record? j = some record → i = j
  stored : ∀ i changes, s.lastSave i = some changes ↔
    ∃ record, s.lesson.record? i = some record ∧ arena.changes (some record) = .ok changes

theorem tidy_start {lesson : Lesson} {store : σ}
    (hunsaved : ∀ task ∈ lesson.tasks, task.record = none)
    (hholds : SafeLog.Holds store arena) (workspace : ω) :
    Tidy (start lesson store workspace) arena := by
  have hnone : ∀ i, (start lesson store workspace).lesson.record? i = none := by
    intro i
    show lesson.tasks[i]?.bind Task.record = none
    cases htask : lesson.tasks[i]? with
    | none => rfl
    | some task => exact hunsaved task (List.mem_of_getElem? htask)
  refine ⟨hholds, ?_, ?_, ?_⟩
  · intro i record hrecord
    rw [hnone] at hrecord
    cases hrecord
  · intro i j record hrecord
    rw [hnone] at hrecord
    cases hrecord
  · intro i changes
    constructor
    · intro hsave
      cases hsave
    · rintro ⟨record, hrecord, -⟩
      rw [hnone] at hrecord
      cases hrecord

theorem Rests.tidy (h : Rests s after arena) (htidy : Tidy s arena) : Tidy after arena where
  holds := h.holds
  issued i record := by
    rw [h.record?]
    exact htidy.issued i record
  distinct i j record := by
    rw [h.record?, h.record?]
    exact htidy.distinct i j record
  stored i changes := by
    rw [h.record?, h.lastSave]
    exact htidy.stored i changes

section

variable {index : Nat} {given : Record} {changes : List Change}

theorem Stores.record?_ne (h : Stores s after arena index given changes) (htidy : Tidy s arena)
    {i : Nat} (hi : i ≠ index) : s.lesson.record? i ≠ some given := by
  intro hrecord
  rcases Record.claim_cases h.claim with ⟨hold, -⟩ | ⟨-, hnew⟩
  · exact hi (htidy.distinct _ _ _ hrecord hold)
  · have hissued := htidy.issued _ _ hrecord
    omega

theorem Stores.record?_eq (h : Stores s after arena index given changes) {i : Nat}
    {record : Record} (hrecord : s.lesson.record? i = some record) :
    after.lesson.record? i = some record := by
  rw [h.record?]
  split
  · rename_i hi
    subst hi
    rcases Record.claim_cases h.claim with ⟨hold, -⟩ | ⟨hnone, -⟩
    · rw [← hold, hrecord]
    · rw [hnone] at hrecord
      cases hrecord
  · exact hrecord

theorem Stores.length_le (arena : Arena) (given : Record) (changes : List Change) :
    arena.slots.length ≤ (arena.put (given, changes)).slots.length := by
  rw [Arena.length_put]
  split <;> omega

theorem Stores.tidy (h : Stores s after arena index given changes) (htidy : Tidy s arena) :
    Tidy after (arena.put (given, changes)) where
  holds := h.holds
  issued i record hrecord := by
    have hle := Record.index_le_of_claim h.claim
    rw [h.record?] at hrecord
    rw [Arena.length_put]
    split at hrecord
    · cases hrecord
      split <;> omega
    · have hissued := htidy.issued i record hrecord
      split <;> omega
  distinct i j record hi hj := by
    rw [h.record?] at hi hj
    split at hi
    · rename_i hindex
      cases hi
      split at hj
      · rename_i hindex'
        rw [hindex, hindex']
      · rename_i hother
        exact absurd hj (h.record?_ne htidy hother)
    · rename_i hother
      split at hj
      · cases hj
        exact absurd hi (h.record?_ne htidy hother)
      · exact htidy.distinct i j record hi hj
  stored i other := by
    have hle := Record.index_le_of_claim h.claim
    rw [h.record?, h.lastSave]
    split
    · constructor
      · intro hsave
        cases hsave
        exact ⟨given, rfl, (Arena.changes_put hle _).trans (if_pos rfl)⟩
      · rintro ⟨record, hrecord, hchanges⟩
        cases hrecord
        rw [Arena.changes_put hle, if_pos rfl] at hchanges
        cases hchanges
        rfl
    · rename_i hother
      rw [htidy.stored]
      refine exists_congr fun record => and_congr_right fun hrecord => ?_
      have hne : record ≠ given := by
        rintro rfl
        exact h.record?_ne htidy hother hrecord
      rw [Arena.changes_put hle, if_neg hne]

end

/-- Under a record that a task has the store holds, and gives, what was last stored for it. -/
theorem Tidy.exists_save (h : Tidy s arena) {i : Nat} {record : Record}
    (hrecord : s.lesson.record? i = some record) :
    ∃ changes, s.lastSave i = some changes ∧ arena.changes (some record) = .ok changes ∧
      ∀ found, ChangeLog.changes s.store (some record) = .ok found → found = changes := by
  have hissued : ∀ given ∈ some record, given.index < arena.slots.length := by
    intro given hgiven
    cases hgiven
    exact h.issued i record hrecord
  obtain ⟨changes, hchanges⟩ := Arena.exists_changes hissued
  refine ⟨changes, (h.stored i changes).2 ⟨record, hrecord, hchanges⟩, hchanges, ?_⟩
  intro found hfound
  have hsame := SafeLog.changes_eq h.holds hfound
  rw [hchanges] at hsame
  exact (Except.ok.inj hsame).symm

theorem Tidy.changes_eq (h : Tidy s arena) (i : Nat) :
    arena.changes (s.lesson.record? i) = .ok ((s.lastSave i).getD []) := by
  cases hrecord : s.lesson.record? i with
  | none =>
    cases hsave : s.lastSave i with
    | none => rfl
    | some changes =>
      obtain ⟨record, hsome, -⟩ := (h.stored i changes).1 hsave
      rw [hrecord] at hsome
      cases hsome
  | some record =>
    obtain ⟨changes, hsave, hchanges, -⟩ := h.exists_save hrecord
    rw [hchanges, hsave]
    rfl

/-- One deed keeps what holds all the time. It uses up no record, and takes none away. -/
theorem Does.exists_tidy (h : Does s after arena) (htidy : Tidy s arena) :
    ∃ next : Arena, Tidy after next ∧ arena.slots.length ≤ next.slots.length ∧
      ∀ i record, s.lesson.record? i = some record → after.lesson.record? i = some record := by
  rcases h with hrests | ⟨index, given, changes, hstores⟩
  · refine ⟨arena, hrests.tidy htidy, Nat.le_refl _, ?_⟩
    intro i record hrecord
    rw [hrests.record?, hrecord]
  · exact ⟨_, hstores.tidy htidy, Stores.length_le arena given changes,
      fun i record hrecord => hstores.record?_eq hrecord⟩

/-- The files of the target of a move with what was last stored for it. -/
def goal (s : Work σ ω) (way : s.lesson.Move) : FileState :=
  way.enters.files.replay ((s.lastSave way.target).getD [])

/-- A move in which the store does not fail leads to what was last stored for its target. -/
theorem Tidy.transition_of_steady (htidy : Tidy s arena) {direction : Direction}
    {onDisk : FileState} {resolver : Resolver} {way : s.lesson.Move}
    (hway : s.lesson.move direction = .ok way)
    (hsteady : ∀ passed,
      Navigator.transition s.lesson s.store direction onDisk resolver = .ok passed →
        passed.notices = []) :
    let propagation := Navigator.changesBetween s.lesson direction way.leaves way.enters onDisk
      (s.goal way) resolver
    ∃ given after, s.transition direction onDisk resolver
      = ⟨way.crossed { way.leaves with record := some given } propagation.changes, after,
        s.workspace, (s.lesson.current, way.leaves.files.diff onDisk) :: s.saves,
        propagation⟩ := by
  obtain ⟨given, after, stored, hread, hmade⟩ := Work.transition_of_steady hway hsteady
  obtain ⟨next, hnext, -⟩ :=
    (does_transition htidy.holds direction onDisk resolver).exists_tidy htidy
  have hne : (way.target : Nat) ≠ s.lesson.current :=
    (Lesson.way_of_move hway).1 ▸ (Lesson.Move.source_ne_target hway).symm
  rw [hmade] at hnext
  have hstored : stored = (s.lastSave way.target).getD [] := by
    have hsame := hnext.changes_eq way.target
    rw [Lesson.Move.record?_crossed hway, if_neg hne, Lesson.record?_of_getElem? way.enters_eq,
      SafeLog.changes_eq hnext.holds hread] at hsame
    unfold lastSave at hsame
    rw [FileState.lookup_entry_cons, if_neg hne] at hsame
    exact Except.ok.inj hsame
  subst hstored
  exact ⟨given, after, hmade⟩

variable [Workspace ω]

/-- What holds at the start of some work holds all through it. -/
theorem Run.exists_tidy {allowed : Work σ ω → Deed σ ω → Prop} {initial : Work σ ω}
    (hrun : initial.Run allowed s) (hpossible : ∀ s deed, allowed s deed → Possible s deed)
    (htidy : Tidy initial arena) :
    ∃ next : Arena, Tidy s next ∧ arena.slots.length ≤ next.slots.length ∧
      ∀ i record, initial.lesson.record? i = some record → s.lesson.record? i = some record := by
  induction hrun with
  | start => exact ⟨arena, htidy, Nat.le_refl _, fun i record hrecord => hrecord⟩
  | step before deed h ih =>
    obtain ⟨middle, hmiddle, hlength, hrecords⟩ := ih
    obtain ⟨next, hnext, hlength', hrecords'⟩ :=
      (does_perform hmiddle.holds (hpossible _ deed h)).exists_tidy hmiddle
    refine ⟨next, hnext, Nat.le_trans hlength hlength', ?_⟩
    intro i record hrecord
    exact hrecords' i record (hrecords i record hrecord)

/-- Whatever is done and whatever fails, no two tasks have the same record, a task that has one
keeps it, the store loses none, and under the record of a task it holds, and gives where it does
not fail, the changes of the last save for this task that it took. -/
theorem every_task_keeps_a_record_of_its_own {lesson : Lesson} {store : σ} {workspace : ω}
    (hunsaved : ∀ task ∈ lesson.tasks, task.record = none) (hholds : SafeLog.Holds store arena)
    (hrun : (start lesson store workspace).Run Possible s) :
    (∀ i j record, s.lesson.record? i = some record → s.lesson.record? j = some record → i = j) ∧
    (∀ i record, s.lesson.record? i = some record → record.index < ChangeLog.count s.store) ∧
    (∃ held : Arena, SafeLog.Holds s.store held ∧
      ∀ i, (s.lesson.record? i = none → s.lastSave i = none) ∧
        ∀ record, s.lesson.record? i = some record →
          ∃ changes, s.lastSave i = some changes ∧ held.changes (some record) = .ok changes ∧
            ∀ found, ChangeLog.changes s.store (some record) = .ok found → found = changes) ∧
    ∀ later : Work σ ω, s.Run Possible later →
      ChangeLog.count s.store ≤ ChangeLog.count later.store ∧
      ∀ i record, s.lesson.record? i = some record → later.lesson.record? i = some record := by
  obtain ⟨held, htidy, -⟩ :=
    hrun.exists_tidy (fun _ _ h => h) (tidy_start hunsaved hholds workspace)
  have hcount := SafeLog.count_eq htidy.holds
  refine ⟨htidy.distinct, ?_, ⟨held, htidy.holds, ?_⟩, ?_⟩
  · intro i record hrecord
    rw [hcount]
    exact htidy.issued i record hrecord
  · intro i
    refine ⟨?_, fun record hrecord => htidy.exists_save hrecord⟩
    intro hnone
    cases hsave : s.lastSave i with
    | none => rfl
    | some changes =>
      obtain ⟨record, hrecord, -⟩ := (htidy.stored i changes).1 hsave
      rw [hnone] at hrecord
      cases hrecord
  · intro later hlater
    obtain ⟨next, hnext, hlength, hrecords⟩ := hlater.exists_tidy (fun _ _ h => h) htidy
    rw [hcount, SafeLog.count_eq hnext.holds]
    exact ⟨hlength, hrecords⟩

/-- The work on two stages after a solution for the second was stored, and another could not be. -/
def refused : Work SwitchedArena MemoryWorkspace :=
  (((start (.twoStages .template) ⟨.empty, {}⟩ ⟨.ofList [("a", "x")]⟩).perform
    (.external 1 (.ofList [("a", "x"), ("b", "z")]))).perform
    (.fault ⟨⟨[[.changeFile "b" "z"]]⟩, { write := true }⟩)).perform
    (.external 1 (.ofList [("a", "w"), ("b", "w")]))

/-- The solution that could be stored is still there. -/
theorem a_save_that_fails_leaves_the_one_before :
    refused.store.arena.changes (some .first) = .ok [.changeFile "b" "z"] := by
  have hrun : (start (.twoStages .template) (⟨.empty, {}⟩ : SwitchedArena)
      (⟨.ofList [("a", "x")]⟩ : MemoryWorkspace)).Run Possible refused := by
    refine ((Run.start.step (.external 1 _) trivial).step (.fault _) ?_).step
      (.external 1 _) trivial
    rintro arena ⟨harena, -⟩
    exact ⟨harena, rfl⟩
  have hholds : SafeLog.Holds (⟨.empty, {}⟩ : SwitchedArena) .empty := ⟨rfl, rfl⟩
  obtain ⟨-, -, ⟨held, hheld, hsaves⟩, -⟩ :=
    every_task_keeps_a_record_of_its_own (Lesson.record_twoStages .template) hholds hrun
  obtain ⟨rfl, -⟩ : refused.store.arena = held ∧ _ := hheld
  obtain ⟨changes, hsave, hchanges, -⟩ := (hsaves 1).2 .first rfl
  obtain rfl : [.changeFile "b" "z"] = changes := Option.some.inj hsave
  exact hchanges

end Work

end LessonHistory
