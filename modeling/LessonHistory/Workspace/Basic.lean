-- The directory in which the learner works, as the navigation sees it: files can be read, and
-- changes can be carried out. Changes that fail halfway leave behind what was done before.
import LessonHistory.Change
import LessonHistory.Notice
import LessonHistory.Volume.Fault

namespace LessonHistory

/-- Why the learner's files could not be read or changed. -/
inductive WorkspaceError where
  | invalidPath (path : String)
  | read (path : String) (fault : Fault)
  | write (path : String) (fault : Fault)
  deriving DecidableEq

def WorkspaceError.message : WorkspaceError → String
  | invalidPath path => "path " ++ path ++ " escapes the task directory"
  | read path fault => "failed to read " ++ path ++ ": " ++ fault.message
  | write path fault => "failed to write " ++ path ++ ": " ++ fault.message

/-- A place where the learner's files are. It carries changes out up to the first that fails. -/
class Workspace (ω : Type) where
  read : ω → String → Except WorkspaceError (Option String)
  apply : ω → List Change → Except WorkspaceError Unit × ω

namespace Workspace

/-- Reports that a file cannot be read. -/
def unreadableNotice (path : String) (error : WorkspaceError) : Notice :=
  ⟨.warning, "skipping unreadable task file", [("path", path), ("error", error.message)]⟩

/-- The files at the given paths. Missing files are left out, and so are unreadable ones, each
with a notice. -/
def capture {ω : Type} [Workspace ω] (workspace : ω) (paths : List String) :
    FileState × List Notice :=
  paths.foldl (fun (state, notices) path =>
    match Workspace.read workspace path with
    | .ok (some text) => (state.insert path text, notices)
    | .ok none => (state, notices)
    | .error error => (state, notices ++ [unreadableNotice path error])) (.empty, [])

end Workspace

/-- A workspace in memory. -/
structure MemoryWorkspace where
  files : FileState
  deriving DecidableEq

instance : Workspace MemoryWorkspace where
  read workspace path := .ok (workspace.files.get? path)
  apply workspace changes := (.ok (), ⟨workspace.files.replay changes⟩)

namespace MemoryWorkspace

/-- The learner writes a file, or deletes it. -/
def edit (workspace : MemoryWorkspace) (path : String) : Option String → MemoryWorkspace
  | some text => ⟨workspace.files.insert path text⟩
  | none => ⟨workspace.files.erase path⟩

end MemoryWorkspace

end LessonHistory
