-- The workspace that is a directory of a volume. Only plain paths lead into it: those that
-- stay below the directory however the names on them are taken.
import LessonHistory.Volume.Tree
import LessonHistory.Workspace.Basic

namespace LessonHistory

/-- A directory of a volume, by its path. -/
structure DirectoryWorkspace where
  volume : Volume
  root : String
  deriving DecidableEq

namespace DirectoryWorkspace

/-- Whether a path stays below the directory: it starts with a name, and no segment leads up. -/
def isPlain (path : String) : Bool :=
  match Route.segments path.toList with
  | [] => false
  | first :: rest =>
    first ≠ [] && first ≠ ['.'] && (first :: rest).all (· ≠ ['.', '.'])

/-- The path of a file on the volume. -/
def resolve (workspace : DirectoryWorkspace) (path : String) : Except WorkspaceError String :=
  if isPlain path then .ok (joinPath workspace.root path) else .error (.invalidPath path)

/-- The text of the file at a path, if there is one. -/
def read (workspace : DirectoryWorkspace) (path : String) :
    Except WorkspaceError (Option String) :=
  match workspace.resolve path with
  | .error error => .error error
  | .ok full =>
    match workspace.volume.readText full with
    | .ok text => .ok (some text)
    | .error .noSuchFile => .ok none
    | .error fault => .error (.read full fault)

/-- Writes the text of a file, and makes the directories that are missing on the way to it. -/
def writeText (path text : String) : Disk Unit := do
  Disk.makeParents path
  Disk.writeFile path text.toByteArray.data.toList

/-- Removes a file, if it is there. -/
def removeIfThere (path : String) : Disk Unit :=
  tryCatch (Disk.removeFile path) fun fault =>
    if fault = .noSuchFile then pure () else throw fault

/-- Carries out one change. -/
def applyChange (workspace : DirectoryWorkspace) (change : Change) :
    Except WorkspaceError Unit × DirectoryWorkspace :=
  match workspace.resolve change.path with
  | .error error => (.error error, workspace)
  | .ok full =>
    let action := match change.text? with
      | some text => writeText full text
      | none => removeIfThere full
    match action.run workspace.volume with
    | (.ok (), volume) => (.ok (), { workspace with volume })
    | (.error fault, volume) => (.error (.write full fault), { workspace with volume })

/-- Carries out changes, up to the first that fails. -/
def apply (workspace : DirectoryWorkspace) :
    List Change → Except WorkspaceError Unit × DirectoryWorkspace
  | [] => (.ok (), workspace)
  | change :: rest =>
    match workspace.applyChange change with
    | (.error error, workspace) => (.error error, workspace)
    | (.ok (), workspace) => workspace.apply rest

instance : Workspace DirectoryWorkspace where
  read := read
  apply := apply

/-- The learner writes a file, or deletes it, as far as the volume lets them. -/
def edit (workspace : DirectoryWorkspace) (path : String) (text? : Option String) :
    DirectoryWorkspace :=
  let full := joinPath workspace.root path
  let action := match text? with
    | some text => writeText full text
    | none => removeIfThere full
  { workspace with volume := (action.run workspace.volume).2 }

end DirectoryWorkspace

end LessonHistory
