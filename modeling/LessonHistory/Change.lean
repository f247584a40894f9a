-- The edits that a learner makes on top of the files of a task. A list of changes is replayed
-- in order, each change on the outcome of those before it. What a change leaves at its own
-- path is its text, or nothing for a removal, and no change touches another path.
import LessonHistory.FileState

namespace LessonHistory

/-- One edit of one file against a baseline. The last two also alter which files belong to the task:
a file of the learner's own joins them, or a file of the task is deleted and leaves it. -/
inductive Change where
  | addFile (path text : String)
  | removeFile (path : String)
  | changeFile (path text : String)
  | addTaskFile (path text : String)
  | removeTaskFile (path : String)
  deriving DecidableEq, Inhabited

namespace Change

def path : Change → String
  | addFile path _ => path
  | removeFile path => path
  | changeFile path _ => path
  | addTaskFile path _ => path
  | removeTaskFile path => path

/-- The text that the change writes; removals write none. -/
def text? : Change → Option String
  | addFile _ text => some text
  | removeFile _ => none
  | changeFile _ text => some text
  | addTaskFile _ text => some text
  | removeTaskFile _ => none

/-- Whether the change alters which files belong to the task. -/
def isStructural : Change → Bool
  | addTaskFile _ _ => true
  | removeTaskFile _ => true
  | _ => false

/-- The state after the change. -/
def apply (change : Change) (state : FileState) : FileState :=
  match change.text? with
  | some text => state.insert change.path text
  | none => state.erase change.path

/-- The line that names the change to a reader. -/
def display : Change → String
  | addFile path _ => "add " ++ path
  | removeFile path => "remove " ++ path
  | changeFile path _ => "change " ++ path
  | addTaskFile path _ => "add task file " ++ path
  | removeTaskFile path => "remove task file " ++ path

/-- The same edit against another baseline: an addition of a path that is there overwrites it,
an overwriting of a path that is not there adds it, and the removal of a path that is not
there is left out. -/
def rebase (baseline : FileState) : Change → Option Change
  | addFile path text =>
    some (if baseline.contains path then changeFile path text else addFile path text)
  | removeFile path => if baseline.contains path then some (removeFile path) else none
  | changeFile path text =>
    some (if baseline.contains path then changeFile path text else addFile path text)
  | structural => some structural

end Change

/-! ## Lists of changes -/

namespace FileState

/-- The state after all the changes, one after the other. -/
def replay (state : FileState) (changes : List Change) : FileState :=
  changes.foldl (fun state change => change.apply state) state

/-- The files of a task after the changes: only those that alter which files belong to the
task count, and the plain edits leave the files of the task as they are. -/
def replayStructural (state : FileState) (changes : List Change) : FileState :=
  state.replay (changes.filter Change.isStructural)

/-- The changes, each put in terms of this state as the baseline. -/
def rebase (baseline : FileState) (changes : List Change) : List Change :=
  changes.filterMap (Change.rebase baseline)

/-! ## What a replay leaves at a path -/

/-- A change leaves its text at its own path and every other path as it was. -/
theorem get?_apply (change : Change) (state : FileState) (path : String) :
    (change.apply state).get? path =
      if path = change.path then change.text? else state.get? path := by
  unfold Change.apply
  cases h : change.text? <;> simp

@[simp] theorem replay_nil (state : FileState) : state.replay [] = state := rfl

@[simp] theorem replay_cons (state : FileState) (change : Change) (rest : List Change) :
    state.replay (change :: rest) = (change.apply state).replay rest := rfl

theorem replay_append (state : FileState) (first second : List Change) :
    state.replay (first ++ second) = (state.replay first).replay second :=
  List.foldl_append

theorem get?_replay_of_not_mem {changes : List Change} {path : String}
    (h : ∀ change ∈ changes, change.path ≠ path) (state : FileState) :
    (state.replay changes).get? path = state.get? path := by
  induction changes generalizing state with
  | nil => rfl
  | cons change rest ih =>
    rw [replay_cons, ih (fun c hc => h c (List.mem_cons_of_mem _ hc)), get?_apply,
      if_neg (Ne.symm (h change List.mem_cons_self))]

end FileState

end LessonHistory
