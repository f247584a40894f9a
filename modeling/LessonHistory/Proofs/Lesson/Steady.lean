-- Work on a lesson whose changes are kept in an arena. With a record to spare for every task
-- that has none yet, the arena fails in no move, however long the learner works.
import LessonHistory.Proofs.Lesson.Sound

namespace LessonHistory

/-- How many tasks have no record yet. -/
def Lesson.unsaved (lesson : Lesson) : Nat := lesson.tasks.countP fun task => task.record.isNone

/-! ## What an arena can do -/

namespace Arena

variable {arena : Arena} {record : Option Record}

theorem exists_update (hissued : ∀ given ∈ record, given.index < arena.slots.length)
    (hroom : record = none → arena.slots.length < 4294967296) (stored : List Change) :
    ∃ given, ChangeLog.updateAndForce arena record stored
      = (.ok given, arena.put (given, stored)) := by
  rw [updateAndForce_eq_update]
  unfold update
  cases record with
  | none =>
    have hclaim : Record.claim arena.slots.length none = .ok ⟨arena.slots.length, hroom rfl⟩ := by
      unfold Record.claim
      rw [show Record.ofNat? arena.slots.length = some _ from dif_pos (hroom rfl)]
    rw [hclaim]
    exact ⟨_, rfl⟩
  | some given =>
    have hclaim : Record.claim arena.slots.length (some given) = .ok given :=
      if_pos (hissued given rfl)
    rw [hclaim]
    exact ⟨_, rfl⟩

end Arena

/-! ## Tasks without a record -/

theorem Lesson.unsaved_pos {lesson : Lesson} {i : Nat} {task : Task}
    (htask : lesson.tasks[i]? = some task) (hrecord : task.record = none) :
    0 < lesson.unsaved := by
  apply List.countP_pos_iff.2
  refine ⟨task, List.mem_of_getElem? htask, ?_⟩
  rw [hrecord]
  rfl

theorem countP_set_add {tasks : List Task} {i : Nat} {old : Task} (p : Task → Bool)
    (h : tasks[i]? = some old) (new : Task) :
    (tasks.set i new).countP p + (if p old then 1 else 0)
      = tasks.countP p + (if p new then 1 else 0) := by
  obtain ⟨hlt, rfl⟩ := List.getElem?_eq_some_iff.1 h
  have hold : (if p tasks[i] then 1 else 0) ≤ tasks.countP p := List.boole_getElem_le_countP hlt
  rw [List.countP_set hlt]
  omega

namespace Session

variable {canonical : String → Bool} {s : Session Arena} {arena : Arena} {direction : Direction}

/-- After a move the task that was left has a record, and no other task has lost or got one. -/
theorem Crossing.unsaved_after (c : s.Crossing direction) (resolver : Resolver) :
    (c.after resolver).unsaved + (if c.way.leaves.record.isNone then 1 else 0)
      = s.lesson.unsaved := by
  have hleaves := countP_set_add (fun task => task.record.isNone) c.way.leaves_eq c.departed
  have henters := countP_set_add (fun task => task.record.isNone) c.getElem?_target
    (c.entered resolver)
  have hsame : (c.entered resolver).record = c.way.enters.record := rfl
  have hgiven : c.departed.record = some c.given := rfl
  simp only [hgiven, hsame, Option.isNone_some, Bool.false_eq_true, if_false] at hleaves henters
  unfold Lesson.unsaved after
  simp only
  omega

/-- A move uses up a record only if it gives one to a task that had none. -/
theorem Crossing.spare_after (c : s.Crossing direction) (h : s.Sound canonical arena)
    (resolver : Resolver) (stored : List Change) :
    (arena.put (c.given, stored)).slots.length + (c.after resolver).unsaved
      ≤ arena.slots.length + s.lesson.unsaved := by
  obtain ⟨next, hupdate, -⟩ := FaithfulLog.updateAndForce_eq h.faithful c.written
  have hunsaved := c.unsaved_after resolver
  rw [Arena.length_put]
  rcases Record.claim_cases (Arena.claim_of_update hupdate).1 with ⟨hrecord, hlt⟩ | ⟨hrecord, heq⟩
  · rw [hrecord] at hunsaved
    rw [if_pos hlt]
    simp at hunsaved
    omega
  · rw [hrecord] at hunsaved
    rw [if_neg (Nat.not_lt.2 (Nat.le_of_eq heq.symm))]
    simp at hunsaved
    omega

/-! ## Moves -/

/-- A move in which the task that is left can be given a record is a steady one. -/
theorem Sound.notices_eq_nil (h : s.Sound canonical arena)
    (hspare : arena.slots.length + s.lesson.unsaved ≤ 4294967296) (direction : Direction)
    (resolver : Resolver) : (s.passage direction resolver).notices = [] := by
  cases hway : s.lesson.move direction with
  | error error =>
    unfold passage Navigator.prepare
    simp only [hway]
  | ok way =>
    obtain rfl : s.store = arena := h.faithful
    have hissued : ∀ given ∈ way.leaves.record, given.index < s.store.slots.length := by
      intro given hgiven
      exact h.issued _ _ _ way.leaves_eq hgiven
    have hroom : way.leaves.record = none → s.store.slots.length < 4294967296 := by
      intro hrecord
      have := Lesson.unsaved_pos way.leaves_eq hrecord
      omega
    obtain ⟨given, hupdate⟩ :=
      Arena.exists_update hissued hroom (way.leaves.files.diff s.onDisk)
    have hstill : ∀ record ∈ way.enters.record, record.index
        < (s.store.put (given, way.leaves.files.diff s.onDisk)).slots.length := by
      intro record hrecord
      have hlt := h.issued _ _ _ way.enters_eq hrecord
      rw [Arena.length_put]
      split <;> omega
    obtain ⟨stored, hchanges⟩ := Arena.exists_changes hstill
    have c : s.Crossing direction := ⟨way, hway, given, _, stored, hupdate, hchanges⟩
    obtain ⟨events, hpassage⟩ := c.passage_eq resolver
    rw [hpassage]

/-! ## Runs -/

/-- An arena that starts with a record to spare for every task fails in no move of a run. -/
theorem Run.notices_eq_nil {lesson : Lesson} {store : Arena} {workspace : MemoryWorkspace}
    (hbegins : lesson.Begins workspace)
    (hspare : store.slots.length + lesson.tasks.length ≤ 4294967296)
    (hrun : (Session.start lesson store workspace).Run s) (direction : Direction)
    (resolver : Resolver) :
    (s.passage direction resolver).notices = [] := by
  have hall : ∃ arena, s.Sound lesson.isCanonical arena ∧
      arena.slots.length + s.lesson.unsaved ≤ 4294967296 := by
    induction hrun with
    | start =>
      refine ⟨store, sound_start hbegins rfl, ?_⟩
      have hle : lesson.unsaved ≤ lesson.tasks.length := List.countP_le_length
      exact Nat.le_trans (Nat.add_le_add_left hle _) hspare
    | @move s before direction resolver steady ih =>
      obtain ⟨arena, hsound, hspare⟩ := ih
      rcases s.move_cases direction resolver steady with ⟨error, -, -, hsame⟩ | ⟨⟨c⟩⟩
      · exact ⟨arena, hsame.symm ▸ hsound, hsame.symm ▸ hspare⟩
      · refine ⟨_, c.sound_move hsound resolver, ?_⟩
        rw [c.move_lesson]
        exact Nat.le_trans (c.spare_after hsound resolver _) hspare
    | edit before path text? own ih =>
      obtain ⟨arena, hsound, hspare⟩ := ih
      exact ⟨arena, hsound.edit own text?, hspare⟩
  obtain ⟨arena, hsound, hspare⟩ := hall
  exact hsound.notices_eq_nil hspare direction resolver

end Session

end LessonHistory
