-- Moving through a lesson, whatever the store and the workspace do. The current index stays below
-- the number of tasks. A move is refused just at the two ends of the lesson, and then nothing has
-- changed. Every other move leads exactly one task on or back, also where the store fails or the
-- changes cannot be carried out.
import LessonHistory.Proofs.Lesson.Transition

namespace LessonHistory

namespace Lesson

/-! ## The ends of a lesson -/

/-- There is a task beside the current one in that direction. -/
def HasNeighbour (lesson : Lesson) (direction : Direction) : Prop :=
  ∃ index < lesson.tasks.length, (index : Int) = lesson.current + direction.delta

/-- What the lesson itself says of its neighbours. -/
def has (lesson : Lesson) : Direction → Bool
  | .next => lesson.hasNext
  | .previous => lesson.hasPrevious

/-- The current task is there, if there is any. -/
def InBounds (lesson : Lesson) : Prop :=
  lesson.tasks ≠ [] → lesson.current < lesson.tasks.length

variable {lesson : Lesson} {direction : Direction}

theorem has_eq (lesson : Lesson) (direction : Direction) :
    lesson.has direction = (lesson.move direction).isOk := by
  cases direction with
  | next => rfl
  | previous => rfl

theorem error_of_move {error : NavError} (h : lesson.move direction = .error error) :
    error = .indexOutOfRange lesson.current direction lesson.tasks.length := by
  unfold move at h
  cases direction with
  | next =>
    simp only at h
    split at h
    · cases h
    · cases h
      rfl
  | previous =>
    simp only at h
    split at h
    · cases h
    · cases h
      rfl

theorem target_of_move {way : lesson.Move} (h : lesson.move direction = .ok way) :
    ((way.target : Nat) : Int) = lesson.current + direction.delta := by
  obtain ⟨-, hnext, hprevious⟩ := way_of_move h
  cases direction with
  | next =>
    have htarget := hnext rfl
    show ((way.target : Nat) : Int) = lesson.current + 1
    omega
  | previous =>
    have htarget := hprevious rfl
    show ((way.target : Nat) : Int) = lesson.current + -1
    omega

theorem exists_move_of_hasNeighbour (hbounds : lesson.InBounds)
    (h : lesson.HasNeighbour direction) : ∃ way, lesson.move direction = .ok way := by
  obtain ⟨index, hlt, hindex⟩ := h
  have hcurrent : lesson.current < lesson.tasks.length :=
    hbounds (List.ne_nil_of_length_pos (Nat.zero_lt_of_lt hlt))
  unfold move
  cases direction with
  | next =>
    replace hindex : (index : Int) = lesson.current + 1 := hindex
    exact ⟨_, dif_pos (by omega)⟩
  | previous =>
    replace hindex : (index : Int) = lesson.current + -1 := hindex
    exact ⟨_, dif_pos ⟨by omega, hcurrent⟩⟩

/-- Whether a move is made depends only on the neighbour. -/
theorem InBounds.move_cases (h : lesson.InBounds) (direction : Direction) :
    (¬lesson.HasNeighbour direction ∧ lesson.has direction = false ∧ lesson.move direction
        = .error (.indexOutOfRange lesson.current direction lesson.tasks.length)) ∨
      (lesson.HasNeighbour direction ∧ lesson.has direction = true ∧
        ∃ way, lesson.move direction = .ok way) := by
  rw [has_eq]
  cases hway : lesson.move direction with
  | error error =>
    refine .inl ⟨?_, rfl, congrArg Except.error (error_of_move hway)⟩
    intro hneighbour
    obtain ⟨way, hmove⟩ := exists_move_of_hasNeighbour h hneighbour
    rw [hway] at hmove
    cases hmove
  | ok way =>
    exact .inr ⟨⟨way.target, way.target.isLt, target_of_move hway⟩, rfl, way, rfl⟩

theorem inBounds_of_setCurrent {index : Nat} {moved : Lesson}
    (h : lesson.setCurrent index = .ok moved) :
    moved.tasks = lesson.tasks ∧ moved.InBounds := by
  unfold setCurrent at h
  split at h
  · rename_i hlt
    cases h
    exact ⟨rfl, fun _ => hlt⟩
  · cases h

theorem length_tasks_ofTasks (name : String) (kind : LessonKind) (classifier : Classifier)
    (tasks : List Task) : (ofTasks name kind classifier tasks).tasks.length = tasks.length :=
  List.length_mapIdx

theorem inBounds_ofTasks (name : String) (kind : LessonKind) (classifier : Classifier)
    (tasks : List Task) : (ofTasks name kind classifier tasks).InBounds :=
  List.length_pos_iff.2

theorem Move.length_crossed (way : lesson.Move) (saved : Task) (changes : List Change) :
    (way.crossed saved changes).tasks.length = lesson.tasks.length := by
  unfold Move.crossed
  rw [List.length_set, List.length_set]

end Lesson

/-! ## A way through a lesson -/

/-- A lesson that is moved through, with all that was reported and asked on the way. -/
structure Walk (σ ω : Type) where
  lesson : Lesson
  store : σ
  workspace : ω
  events : List MetadataEvent
  asked : List Conflict
  notices : List Notice

/-- How a move is made: for files that somebody else has read and will write, or with the workspace. -/
inductive Means where
  | transition (onDisk : FileState)
  | prepare

/-- What can happen on the way. The lesson may also be put on a task, with no files touched, and the
store or the workspace may become another one, which fails where the one before did not. -/
inductive Act (σ ω : Type) where
  | move (direction : Direction) (means : Means) (resolver : Resolver)
  | goTo (index : Nat)
  | become (store : σ) (workspace : ω)

namespace Walk

variable {σ ω : Type} [ChangeLog σ] [Workspace ω]

/-- A lesson before anything was done. -/
def start (lesson : Lesson) (store : σ) (workspace : ω) : Walk σ ω :=
  ⟨lesson, store, workspace, [], [], []⟩

/-- A move, with its answer. -/
def move (walk : Walk σ ω) (direction : Direction) (means : Means) (resolver : Resolver) :
    Except NavError (List Change) × Walk σ ω :=
  match means with
  | .transition onDisk =>
    match Navigator.transition walk.lesson walk.store direction onDisk resolver with
    | .error error => (.error error, walk)
    | .ok passed =>
      (.ok passed.changes, { walk with
        lesson := passed.lesson
        store := passed.store
        events := walk.events ++ passed.events
        asked := walk.asked ++ passed.asked
        notices := walk.notices ++ passed.notices })
  | .prepare =>
    let passage := Navigator.prepare walk.lesson walk.store walk.workspace direction resolver
    (passage.result, {
      lesson := passage.lesson
      store := passage.store
      workspace := passage.workspace
      events := walk.events ++ passage.events
      asked := walk.asked ++ passage.asked
      notices := walk.notices ++ passage.notices })

/-- The lesson put on a task, if there is such a task. -/
def goTo (walk : Walk σ ω) (index : Nat) : Walk σ ω :=
  match walk.lesson.setCurrent index with
  | .error _ => walk
  | .ok lesson => { walk with lesson }

/-- What an act leaves. -/
def perform (walk : Walk σ ω) : Act σ ω → Walk σ ω
  | .move direction means resolver => (walk.move direction means resolver).2
  | .goTo index => walk.goTo index
  | .become store workspace => { walk with store, workspace }

/-- What acts leave, one after the other. -/
def performAll (walk : Walk σ ω) (acts : List (Act σ ω)) : Walk σ ω := acts.foldl perform walk

variable {walk : Walk σ ω} {direction : Direction}

theorem move_of_error {error : NavError} (h : walk.lesson.move direction = .error error)
    (means : Means) (resolver : Resolver) :
    walk.move direction means resolver = (.error error, walk) := by
  unfold move
  cases means with
  | transition onDisk =>
    simp only [Navigator.transition_of_error h]
  | prepare =>
    unfold Navigator.prepare
    simp only [h, List.append_nil]

theorem move_of_ok {way : walk.lesson.Move} (h : walk.lesson.move direction = .ok way)
    (means : Means) (resolver : Resolver) :
    (∃ saved changes, (walk.move direction means resolver).2.lesson = way.crossed saved changes) ∧
      ((∃ changes, (walk.move direction means resolver).1 = .ok changes) ∨
        ∃ cause, (walk.move direction means resolver).1 = .error (.workspace cause)) := by
  have htransition (onDisk : FileState) := Navigator.transition_eq h
    (show Navigator.saveEdits walk.store way.leaves onDisk = (_, _, _, _) from rfl) resolver
  unfold move
  cases means with
  | transition onDisk =>
    simp only [htransition]
    exact ⟨⟨_, _, rfl⟩, .inl ⟨_, rfl⟩⟩
  | prepare =>
    unfold Navigator.prepare
    simp only [h, htransition]
    refine ⟨⟨_, _, rfl⟩, ?_⟩
    split
    · exact .inl ⟨_, rfl⟩
    · exact .inr ⟨_, rfl⟩

/-- No act takes a lesson out of its bounds, or changes how many tasks it has. -/
theorem inBounds_perform (h : walk.lesson.InBounds) (act : Act σ ω) :
    (walk.perform act).lesson.tasks.length = walk.lesson.tasks.length ∧
      (walk.perform act).lesson.InBounds := by
  cases act with
  | move direction means resolver =>
    unfold perform
    cases hway : walk.lesson.move direction with
    | error error =>
      simp only [move_of_error hway]
      exact ⟨trivial, h⟩
    | ok way =>
      obtain ⟨⟨saved, changes, hlesson⟩, -⟩ := move_of_ok hway means resolver
      simp only [hlesson]
      refine ⟨way.length_crossed saved changes, ?_⟩
      intro _
      rw [way.length_crossed]
      exact way.target.isLt
  | goTo index =>
    show (walk.goTo index).lesson.tasks.length = _ ∧ (walk.goTo index).lesson.InBounds
    unfold goTo
    cases hset : walk.lesson.setCurrent index with
    | error error => exact ⟨rfl, h⟩
    | ok moved =>
      obtain ⟨htasks, hbounds⟩ := Lesson.inBounds_of_setCurrent hset
      exact ⟨congrArg List.length htasks, hbounds⟩
  | become store workspace => exact ⟨rfl, h⟩

theorem inBounds_performAll (h : walk.lesson.InBounds) (acts : List (Act σ ω)) :
    (walk.performAll acts).lesson.tasks.length = walk.lesson.tasks.length ∧
      (walk.performAll acts).lesson.InBounds := by
  induction acts generalizing walk with
  | nil => exact ⟨rfl, h⟩
  | cons act acts ih =>
    obtain ⟨hlength, hbounds⟩ := inBounds_perform h act
    obtain ⟨hrest, hall⟩ := ih hbounds
    exact ⟨hrest.trans hlength, hall⟩

/-- After anything that can be done with a lesson, the current task is there unless there is none at
all. A move finds no neighbour, which the lesson has said, and is refused with nothing done; or it
finds both its tasks and leads from the one to the other, which are one apart, and at worst the
workspace has an error to tell. -/
theorem a_move_is_refused_just_at_the_ends (name : String) (kind : LessonKind)
    (classifier : Classifier) (tasks : List Task) (store : σ) (workspace : ω)
    (acts : List (Act σ ω)) :
    let walk := (start (.ofTasks name kind classifier tasks) store workspace).performAll acts
    walk.lesson.tasks.length = tasks.length ∧
      (tasks ≠ [] → walk.lesson.current < tasks.length) ∧
      ∀ direction,
        (¬walk.lesson.HasNeighbour direction ∧ walk.lesson.has direction = false ∧
          ∀ means resolver, walk.move direction means resolver
            = (.error (.indexOutOfRange walk.lesson.current direction tasks.length), walk)) ∨
        (walk.lesson.HasNeighbour direction ∧ walk.lesson.has direction = true ∧
          ∃ way, walk.lesson.move direction = .ok way ∧
            (way.source : Nat) = walk.lesson.current ∧
            ((way.target : Nat) : Int) = walk.lesson.current + direction.delta ∧
            ∀ means resolver,
              (walk.move direction means resolver).2.lesson.current = way.target ∧
              (walk.move direction means resolver).2.lesson.tasks.length = tasks.length ∧
              ((∃ changes, (walk.move direction means resolver).1 = .ok changes) ∨
                ∃ cause, (walk.move direction means resolver).1 = .error (.workspace cause))) := by
  intro walk
  have hstart := Lesson.length_tasks_ofTasks name kind classifier tasks
  obtain ⟨hlength, hbounds⟩ : walk.lesson.tasks.length = _ ∧ walk.lesson.InBounds :=
    inBounds_performAll (Lesson.inBounds_ofTasks name kind classifier tasks) acts
  replace hlength : walk.lesson.tasks.length = tasks.length := hlength.trans hstart
  refine ⟨hlength, ?_, ?_⟩
  · intro hsome
    rw [← hlength]
    refine hbounds (List.ne_nil_of_length_pos ?_)
    rw [hlength]
    exact List.length_pos_iff.2 hsome
  · intro direction
    rcases hbounds.move_cases direction with
      ⟨hnone, hhas, hrefused⟩ | ⟨hsome, hhas, way, hway⟩
    · rw [hlength] at hrefused
      exact .inl ⟨hnone, hhas, move_of_error hrefused⟩
    · refine .inr ⟨hsome, hhas, way, hway, (Lesson.way_of_move hway).1,
        Lesson.target_of_move hway, ?_⟩
      intro means resolver
      obtain ⟨⟨saved, changes, hlesson⟩, hanswer⟩ := move_of_ok hway means resolver
      rw [hlesson]
      exact ⟨rfl, (way.length_crossed saved changes).trans hlength, hanswer⟩

end Walk

end LessonHistory
