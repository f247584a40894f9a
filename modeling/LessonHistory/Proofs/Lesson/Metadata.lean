-- What is reported of a lesson while a learner works on it. Every record and every set of files that
-- a move or a solution from elsewhere gives to a task is reported, and so is every new current task,
-- whatever fails on the way. Whoever goes by the reports alone always has the lesson as it is.
import LessonHistory.Proofs.Lesson.Work

namespace LessonHistory

/-- What is kept of a lesson with the data of the course. -/
structure Metadata where
  current : Nat
  tasks : List (Option Record × FileState)
  deriving DecidableEq

namespace Metadata

/-- What is to be kept of a lesson. -/
def ofLesson (lesson : Lesson) : Metadata :=
  ⟨lesson.current, lesson.tasks.map fun task => (task.record, task.files)⟩

/-- What is kept after one report. A task is known by its index. -/
def note (metadata : Metadata) : MetadataEvent → Metadata
  | .lesson _ current => { metadata with current }
  | .task task =>
    { metadata with tasks := metadata.tasks.set (task.index - 1) (task.record, task.files) }

/-- What is kept after some reports. -/
def noteAll (metadata : Metadata) (events : List MetadataEvent) : Metadata :=
  events.foldl note metadata

@[simp] theorem noteAll_nil (metadata : Metadata) : metadata.noteAll [] = metadata := rfl

@[simp] theorem noteAll_cons (metadata : Metadata) (event : MetadataEvent)
    (rest : List MetadataEvent) :
    metadata.noteAll (event :: rest) = (metadata.note event).noteAll rest := rfl

theorem noteAll_append (metadata : Metadata) (first second : List MetadataEvent) :
    metadata.noteAll (first ++ second) = (metadata.noteAll first).noteAll second :=
  List.foldl_append

theorem note_lesson (lesson : Lesson) (name : String) (current : Nat) :
    (ofLesson lesson).note (.lesson name current) = ofLesson { lesson with current } := rfl

theorem note_task {lesson : Lesson} {task : Task} {i : Nat} (h : task.index = i + 1) :
    (ofLesson lesson).note (.task task) = ofLesson (lesson.withTask i task) := by
  unfold note ofLesson Lesson.withTask
  simp [h, List.map_set]

end Metadata

namespace Lesson

/-- Every task has the index of its place, counted from one. -/
def Numbered (lesson : Lesson) : Prop :=
  ∀ i task, lesson.tasks[i]? = some task → task.index = i + 1

theorem numbered_ofTasks (name : String) (kind : LessonKind) (classifier : Classifier)
    (tasks : List Task) : (ofTasks name kind classifier tasks).Numbered := by
  intro i task htask
  unfold ofTasks at htask
  rw [List.getElem?_mapIdx] at htask
  obtain ⟨given, -, rfl⟩ := Option.map_eq_some_iff.1 htask
  rfl

theorem Numbered.withTask {lesson : Lesson} (h : lesson.Numbered) {task : Task} {i : Nat}
    (hindex : task.index = i + 1) : (lesson.withTask i task).Numbered := by
  intro j found hfound
  unfold Lesson.withTask at hfound
  rw [List.getElem?_set] at hfound
  split at hfound
  · rename_i hplace
    split at hfound
    · cases hfound
      rw [hindex, hplace]
    · cases hfound
  · exact h j found hfound

namespace Move

variable {lesson : Lesson} {direction : Direction}

theorem numbered_crossed (way : lesson.Move) (hnumbered : lesson.Numbered) {saved : Task}
    (hsource : saved.index = way.source + 1) (htarget : way.enters.index = way.target + 1)
    (changes : List Change) : (way.crossed saved changes).Numbered :=
  (hnumbered.withTask hsource).withTask htarget

/-- The reports of a move tell all that the move does to the lesson. -/
theorem noteAll_reports {way : lesson.Move} (h : lesson.move direction = .ok way) {saved : Task}
    (hsource : saved.index = way.source + 1) (htarget : way.enters.index = way.target + 1)
    (changes : List Change) :
    (Metadata.ofLesson lesson).noteAll (way.reports saved changes)
      = Metadata.ofLesson (way.crossed saved changes) := by
  have hleft : (Metadata.ofLesson lesson).noteAll [.lesson lesson.name way.target, .task saved]
      = Metadata.ofLesson ({ lesson with current := way.target }.withTask way.source saved) := by
    simp [Metadata.note_lesson, Metadata.note_task hsource]
  unfold reports
  rw [Metadata.noteAll_append, hleft]
  cases hstructural : changes.any Change.isStructural with
  | true => exact Metadata.note_task htarget
  | false =>
    rw [crossed_of_not_structural h saved hstructural]
    rfl

end Move

end Lesson

namespace Navigator

variable {σ ω : Type} [ChangeLog σ] [Workspace ω] {lesson : Lesson} {store : σ}
  {direction : Direction} {onDisk : FileState} {resolver : Resolver}

theorem index_saveEdits (store : σ) (task : Task) (onDisk : FileState) :
    (saveEdits store task onDisk).1.index = task.index := by
  rcases hwritten : ChangeLog.updateAndForce store task.record (task.files.diff onDisk)
    with ⟨_ | given, after⟩
  · rw [saveEdits_of_error hwritten]
  · rw [saveEdits_of_ok hwritten]

/-- The reports of a move begin with that of the new current task, and tell all that the move has
done to the lesson. -/
theorem reports_of_transition {passed : Transition σ} (hnumbered : lesson.Numbered)
    (hmade : transition lesson store direction onDisk resolver = .ok passed) :
    passed.lesson.Numbered ∧
      (Metadata.ofLesson lesson).noteAll passed.events = Metadata.ofLesson passed.lesson ∧
      ∃ target rest, lesson.targetIndex direction = .ok target ∧
        passed.events = .lesson lesson.name target :: rest := by
  cases hway : lesson.move direction with
  | error error =>
    rw [transition_of_error hway] at hmade
    cases hmade
  | ok way =>
    have hindex : lesson.targetIndex direction = .ok (way.target : Nat) :=
      congrArg (Except.map _) hway
    have hsource := hnumbered _ _ way.leaves_eq
    have htarget := hnumbered _ _ way.enters_eq
    rw [← index_saveEdits store way.leaves onDisk] at hsource
    rcases hsave : saveEdits store way.leaves onDisk with ⟨saved, after, edits, notices⟩
    rw [hsave] at hsource
    rw [transition_eq hway hsave resolver] at hmade
    cases hmade
    exact ⟨way.numbered_crossed hnumbered hsource htarget _,
      Lesson.Move.noteAll_reports hway hsource htarget _, _, _, hindex, rfl⟩

/-- A solution from elsewhere is reported whether or not it could be stored. -/
theorem reports_of_saveExternal (store : σ) (task : Task) (classifier : Classifier)
    (solution : FileState) :
    let saved := saveExternal store task classifier solution
    saved.events = [.task saved.task] ∧ saved.task.index = task.index := by
  rcases hwritten : ChangeLog.update store task.record
    ((classifier.taskFiles task.files).diff (classifier.taskFiles solution))
    with ⟨_ | given, after⟩
  · simp [saveExternal, hwritten]
  · simp [saveExternal, hwritten]

end Navigator

/-- The direction in which a deed goes, if it is a move. -/
def Deed.direction? {σ ω : Type} : Deed σ ω → Option Direction
  | .move direction _ => some direction
  | .transition direction _ _ => some direction
  | _ => none

/-- Whether a deed gives a task new files from outside the lesson. -/
def Deed.isReplacement {σ ω : Type} : Deed σ ω → Bool
  | .replace _ _ => true
  | _ => false

namespace Work

variable {σ ω : Type} [ChangeLog σ] [Workspace ω] {s : Work σ ω}

/-! ## The reports of a deed -/

/-- What is reported in a deed. -/
def reports (s : Work σ ω) : Deed σ ω → List MetadataEvent
  | .move direction resolver =>
    (Navigator.prepare s.lesson s.store s.workspace direction resolver).events
  | .transition direction onDisk resolver =>
    match Navigator.transition s.lesson s.store direction onDisk resolver with
    | .error _ => []
    | .ok passed => passed.events
  | .external index solution =>
    match s.lesson.tasks[index]? with
    | none => []
    | some task => (Navigator.saveExternal s.store task s.lesson.classifier solution).events
  | _ => []

/-- A move that brings the workspace along reports what the move alone does, whatever becomes of
the workspace. -/
theorem reports_move (s : Work σ ω) (direction : Direction) (resolver : Resolver) :
    s.reports (.move direction resolver)
      = s.reports (.transition direction s.onDisk resolver) := by
  unfold reports Navigator.prepare
  cases hway : s.lesson.move direction with
  | error error => simp only [hway, Navigator.transition_of_error hway]
  | ok way =>
    simp only [hway, Lesson.Move.getElem_source, capture_leaves hway]
    cases Navigator.transition s.lesson s.store direction s.onDisk resolver with
    | error error => rfl
    | ok passed => rfl

theorem transition_reports (s : Work σ ω) (direction : Direction) (onDisk : FileState)
    (resolver : Resolver) :
    let deed := Deed.transition direction onDisk resolver
    (∃ error, s.lesson.targetIndex direction = .error error ∧ s.perform deed = s ∧
      s.reports deed = []) ∨
    ∃ passed, Navigator.transition s.lesson s.store direction onDisk resolver = .ok passed ∧
      (s.perform deed).lesson = passed.lesson ∧ s.reports deed = passed.events := by
  cases hway : s.lesson.move direction with
  | error error =>
    refine .inl ⟨error, congrArg (Except.map _) hway, transition_of_error hway onDisk resolver, ?_⟩
    simp only [reports, Navigator.transition_of_error hway]
  | ok way =>
    rcases hsave : Navigator.saveEdits s.store way.leaves onDisk with ⟨saved, after, edits, notices⟩
    have hmade := Navigator.transition_eq hway hsave resolver
    refine .inr ⟨_, hmade, ?_, ?_⟩
    · simp only [perform, transition, Lesson.Move.currentTask?_eq hway, hmade]
    · simp only [reports, hmade]

/-! ## Whoever goes by the reports -/

/-- Someone who goes by the reports of a move has the lesson as it is after the move. The first
report is that of the new current task, and a move that is refused has none. -/
theorem noteAll_reports_transition (hnumbered : s.lesson.Numbered) (direction : Direction)
    (onDisk : FileState) (resolver : Resolver) :
    let deed := Deed.transition direction onDisk resolver
    ((s.perform deed).lesson.Numbered ∧ (Metadata.ofLesson s.lesson).noteAll (s.reports deed)
      = Metadata.ofLesson (s.perform deed).lesson) ∧
    (∀ error, s.lesson.targetIndex direction = .error error → s.reports deed = []) ∧
    ∀ target, s.lesson.targetIndex direction = .ok target →
      ∃ rest, s.reports deed = .lesson s.lesson.name target :: rest := by
  intro deed
  rcases s.transition_reports direction onDisk resolver with ⟨error, htarget, hsame, hreports⟩ |
    ⟨passed, hmade, hlesson, hreports⟩
  · rw [hreports, hsame, htarget]
    exact ⟨⟨hnumbered, rfl⟩, fun _ _ => rfl, nofun⟩
  · obtain ⟨hafter, hnoted, target, rest, htarget, hevents⟩ :=
      Navigator.reports_of_transition hnumbered hmade
    rw [hreports, hlesson, htarget]
    refine ⟨⟨hafter, hnoted⟩, nofun, ?_⟩
    rintro _ ⟨⟩
    exact ⟨rest, hevents⟩

/-- Someone who goes by the reports of a deed has the lesson as it is after the deed. -/
theorem noteAll_reports (hnumbered : s.lesson.Numbered) {deed : Deed σ ω}
    (hown : deed.isReplacement = false) :
    (s.perform deed).lesson.Numbered ∧ (Metadata.ofLesson s.lesson).noteAll (s.reports deed)
      = Metadata.ofLesson (s.perform deed).lesson := by
  cases deed with
  | move direction resolver =>
    rw [reports_move, perform, move_eq]
    exact (noteAll_reports_transition hnumbered direction s.onDisk resolver).1
  | transition direction onDisk resolver =>
    exact (noteAll_reports_transition hnumbered direction onDisk resolver).1
  | external index solution =>
    cases htask : s.lesson.tasks[index]? with
    | none =>
      simp only [perform, external, reports, htask]
      exact ⟨hnumbered, rfl⟩
    | some task =>
      obtain ⟨hevents, hindex⟩ := Navigator.reports_of_saveExternal s.store task
        s.lesson.classifier solution
      have hplace := hindex.trans (hnumbered index task htask)
      simp only [perform, external, reports, htask, hevents, Metadata.noteAll_cons,
        Metadata.noteAll_nil, Metadata.note_task hplace]
      exact ⟨hnumbered.withTask hplace, trivial⟩
  | rebase index baseline =>
    have hsame : (s.rebase index baseline).lesson = s.lesson := by
      rcases s.rebase_cases index baseline with hsame | ⟨record, stored, -, -, hmade⟩
      · rw [hsame]
      · rw [hmade]
    rw [perform, hsame]
    exact ⟨hnumbered, rfl⟩
  | replace index files => cases hown
  | edit workspace => exact ⟨hnumbered, rfl⟩
  | fault store => exact ⟨hnumbered, rfl⟩

/-! ## Any amount of work -/

/-- The work after some deeds. -/
def performAll (s : Work σ ω) (deeds : List (Deed σ ω)) : Work σ ω := deeds.foldl perform s

/-- What is reported in the course of some deeds. -/
def reportsOf (s : Work σ ω) : List (Deed σ ω) → List MetadataEvent
  | [] => []
  | deed :: rest => s.reports deed ++ (s.perform deed).reportsOf rest

theorem noteAll_reportsOf {deeds : List (Deed σ ω)} (hnumbered : s.lesson.Numbered)
    (hown : ∀ deed ∈ deeds, deed.isReplacement = false) :
    (s.performAll deeds).lesson.Numbered ∧
      (Metadata.ofLesson s.lesson).noteAll (s.reportsOf deeds)
        = Metadata.ofLesson (s.performAll deeds).lesson := by
  induction deeds generalizing s with
  | nil => exact ⟨hnumbered, rfl⟩
  | cons deed rest ih =>
    obtain ⟨hdeed, hrest⟩ := List.forall_mem_cons.1 hown
    -- A deed leaves every task the index that it is reported by, so the next one can be noted too.
    obtain ⟨hafter, hnoted⟩ := noteAll_reports hnumbered hdeed
    rw [reportsOf, Metadata.noteAll_append, hnoted]
    exact ih hafter hrest

theorem reports_of_direction (hnumbered : s.lesson.Numbered) {deed : Deed σ ω}
    {direction : Direction} (hdirection : deed.direction? = some direction) :
    (∀ error, s.lesson.targetIndex direction = .error error → s.reports deed = []) ∧
    ∀ target, s.lesson.targetIndex direction = .ok target →
      ∃ rest, s.reports deed = .lesson s.lesson.name target :: rest := by
  cases deed with
  | move towards resolver =>
    cases hdirection
    rw [reports_move]
    exact (noteAll_reports_transition hnumbered direction s.onDisk resolver).2
  | transition towards onDisk resolver =>
    cases hdirection
    exact (noteAll_reports_transition hnumbered direction onDisk resolver).2
  | _ => cases hdirection

/-- Whatever is done and whatever fails, someone who goes by the reports alone has the current
task, and the record and the files of every task, as they are in the lesson. At any time the first
report of a move that is not refused is that of the new current task, and a move that is refused is
not reported at all. -/
theorem the_reports_tell_all_that_becomes_of_a_lesson (hnumbered : s.lesson.Numbered)
    (deeds : List (Deed σ ω)) (hown : ∀ deed ∈ deeds, deed.isReplacement = false) :
    let after := s.performAll deeds
    (Metadata.ofLesson s.lesson).noteAll (s.reportsOf deeds) = Metadata.ofLesson after.lesson ∧
    ∀ deed direction, Deed.direction? deed = some direction →
      (∀ error, after.lesson.targetIndex direction = .error error → after.reports deed = []) ∧
      ∀ target, after.lesson.targetIndex direction = .ok target →
        ∃ rest, after.reports deed = .lesson after.lesson.name target :: rest := by
  intro after
  obtain ⟨hafter, hnoted⟩ := noteAll_reportsOf hnumbered hown
  exact ⟨hnoted, fun deed direction hdirection => reports_of_direction hafter hdirection⟩

/-- The work on two stages, in which a solution is stored for the second, and then the edits of
the first cannot be stored. -/
def unkept : List (Deed SwitchedArena MemoryWorkspace) :=
  [.external 1 (.ofList [("a", "x"), ("b", "z")]),
    .fault ⟨⟨[[.changeFile "b" "z"]]⟩, { write := true }⟩,
    .move .next (.always .keep)]

/-- The move is reported though the edits of the first stage were not stored, and another move in
the same direction is refused and not reported. -/
theorem a_move_is_reported_when_nothing_is_stored :
    let s : Work SwitchedArena MemoryWorkspace :=
      start (.twoStages .staged) ⟨.empty, {}⟩ ⟨.ofList [("a", "x")]⟩
    (Metadata.ofLesson s.lesson).noteAll (s.reportsOf unkept)
      = ⟨1, [(none, .ofList [("a", "x")]), (some .first, .ofList [("a", "x"), ("b", "y")])]⟩ ∧
    (s.performAll unkept).reports (.move .next (.always .keep)) = [] := by
  intro s
  have hnumbered : s.lesson.Numbered := Lesson.numbered_ofTasks _ _ _ _
  have hown : ∀ deed ∈ unkept, deed.isReplacement = false := by
    unfold unkept
    simp [Deed.isReplacement]
  obtain ⟨hnoted, hmoves⟩ :=
    the_reports_tell_all_that_becomes_of_a_lesson hnumbered unkept hown
  have hrefused : (s.performAll unkept).lesson.targetIndex .next
    = .error (.indexOutOfRange 1 .next 2) := by decide
  refine ⟨?_, (hmoves (.move .next (.always .keep)) .next rfl).1 _ hrefused⟩
  rw [hnoted]
  decide

end Work

end LessonHistory
