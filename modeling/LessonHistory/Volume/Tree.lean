-- A volume: a tree of directories and files, each known by the names that lead to it from the
-- root. A link lets other names lead to it too, and some directories are sealed: nothing can be
-- made in them. Operations on a volume may fail, and what one did before it failed stays done.
import LessonHistory.Volume.Content
import LessonHistory.Volume.Route

namespace LessonHistory

/-- What stands at a place of a volume. -/
inductive Node where
  | directory
  | file (content : List UInt8)
  deriving DecidableEq

/-- The names that lead from the root to a place. -/
abbrev Place := List String

/-- Directories and files by their places. The root is always a directory, and relative paths lead
from the working directory. No file can grow past the size limit. A link is a place that stands for
another one, which is no link itself, and nothing can be made in a sealed place or below it. -/
structure Volume where
  nodes : List (Place × Node)
  workingDirectory : Place := []
  sizeLimit : Option Nat := none
  links : List (Place × Place) := []
  sealedPlaces : List Place := []
  deriving DecidableEq

/-- An operation on a volume. -/
abbrev Disk := ExceptT Fault (StateM Volume)

namespace Volume

/-! ## The tree -/

/-- What stands at a place. -/
def get? (volume : Volume) (place : Place) : Option Node :=
  if place = [] then some .directory else volume.nodes.lookup place

/-- The volume with `node` at a place. -/
def put (volume : Volume) (place : Place) (node : Node) : Volume :=
  { volume with nodes := (place, node) :: volume.nodes.filter (·.1 != place) }

/-- The volume without what stands at a place. -/
def remove (volume : Volume) (place : Place) : Volume :=
  { volume with
    nodes := volume.nodes.filter (·.1 != place)
    links := volume.links.filter (·.1 != place) }

/-- The volume without what stands at a place and below it. -/
def removeTree (volume : Volume) (place : Place) : Volume :=
  { volume with
    nodes := volume.nodes.filter fun entry => !place.isPrefixOf entry.1
    links := volume.links.filter fun link => !place.isPrefixOf link.1 }

/-- The names under `place` that lead to everything below it, with what stands there. -/
def below (volume : Volume) (place : Place) : List (Place × Node) :=
  volume.nodes.filterMap fun entry =>
    if place.isPrefixOf entry.1 ∧ entry.1 ≠ place then some (entry.1.drop place.length, entry.2)
    else none

/-- The bytes of the file at a place. -/
def content? (volume : Volume) (place : Place) : Option (List UInt8) :=
  match volume.get? place with
  | some (.file content) => some content
  | _ => none

/-- A name that nothing on the volume has, for it is longer than all names together. -/
def unusedName (volume : Volume) : String :=
  let names := (volume.nodes.map (·.1) ++ volume.links.map (·.1)).flatten
  String.ofList (List.replicate ((names.flatMap String.toList).length + 1) '~')

/-- Whether nothing can be made in the directory at a place. -/
def isSealed (volume : Volume) (directory : Place) : Bool :=
  volume.sealedPlaces.any (·.isPrefixOf directory)

/-- The place that relative and absolute ways start from. -/
def start (volume : Volume) (route : Route) : Place :=
  if route.absolute then [] else volume.workingDirectory

/-! ## Finding the way -/

/-- The place that a name in a directory leads to. -/
def child (volume : Volume) (directory : Place) (name : String) : Place :=
  (volume.links.lookup (directory ++ [name])).getD (directory ++ [name])

/-- What a directory has under a name. -/
def entry (volume : Volume) (directory : Place) (name : String) : Except Fault (Option Node) :=
  if Route.maxNameBytes < name.utf8ByteSize then .error .nameTooLong
  else .ok (volume.get? (volume.child directory name))

/-- The directory that the steps lead to from a directory. -/
def enter (volume : Volume) (directory : Place) : List Step → Except Fault Place
  | [] => .ok directory
  | .up :: rest => volume.enter directory.dropLast rest
  | .name name :: rest =>
    match volume.entry directory name with
    | .error fault => .error fault
    | .ok none => .error .noSuchFile
    | .ok (some .directory) => volume.enter (volume.child directory name) rest
    | .ok (some (.file _)) => .error .notADirectory

/-- What the last step of a way asks for: a directory that is there, or the entry of a name in
one. -/
inductive Target where
  | directory (place : Place)
  | named (directory : Place) (name : String)
  deriving DecidableEq

/-- Follows the steps up to the last one, which need not lead to anything. -/
def target (volume : Volume) (directory : Place) (steps : List Step) : Except Fault Target :=
  match steps.getLast? with
  | some (.name name) =>
    (volume.enter directory steps.dropLast).map fun parent => .named parent name
  | _ => (volume.enter directory steps).map .directory

/-- Follows a way up to its last name. -/
def locate (volume : Volume) (route : Route) : Except Fault Target :=
  if route.trailingDot then (volume.enter (volume.start route) route.steps).map .directory
  else volume.target (volume.start route) route.steps

/-! ## Operations -/

/-- The bytes of the file at a path. -/
def read (volume : Volume) (path : String) : Except Fault (List UInt8) := do
  let route ← Route.parse path
  match ← volume.locate route with
  | .directory _ => throw .isADirectory
  | .named directory name =>
    match ← volume.entry directory name with
    | none => throw .noSuchFile
    | some .directory => throw .isADirectory
    | some (.file content) => if route.trailingSlash then throw .notADirectory else pure content

def readText (volume : Volume) (path : String) : Except Fault String := do
  let content ← volume.read path
  match String.fromUTF8? ⟨content.toArray⟩ with
  | some text => pure text
  | none => throw .invalidText

/-- Whether the steps lead to a directory. -/
def isDirectory (volume : Volume) (directory : Place) (steps : List Step) : Bool :=
  (volume.enter directory steps).isOk

end Volume

namespace Disk

/-- The answer of a function that only looks. -/
def look {α : Type} (f : Volume → Except Fault α) : Disk α := do
  match f (← get) with
  | .ok value => pure value
  | .error fault => throw fault

/-- Puts something new at a place. -/
def make (place : Place) (node : Node) : Disk Unit := do
  if (← get).isSealed place.dropLast then throw .noSuchFile
  modify (·.put place node)

/-- Makes the directory that the steps lead to. -/
def makeDirectory (directory : Place) (steps : List Step) : Disk Unit := do
  match ← look (·.target directory steps) with
  | .directory _ => throw .fileExists
  | .named parent name =>
    match ← look (·.entry parent name) with
    | some _ => throw .fileExists
    | none => make (parent ++ [name]) .directory

/-- Makes the directory that the steps lead to and all that are missing on the way. The steps
are given from the last to the first. A step that cannot be made is no fault where a directory
stands. -/
def makeDirectories (directory : Place) : List Step → Disk Unit
  | [] => pure ()
  | last :: before => do
    let steps := (last :: before).reverse
    let settle (fault : Fault) : Disk Unit := do
      unless (← get).isDirectory directory steps do throw fault
    tryCatch (makeDirectory directory steps) fun fault =>
      if fault = .noSuchFile then do
        makeDirectories directory before
        tryCatch (makeDirectory directory steps) settle
      else settle fault

/-- Makes the directory at a path, and all that are missing on the way to it. -/
def makePath (path : String) : Disk Unit := do
  let route ← look fun _ => Route.parse path
  makeDirectories ((← get).start route) route.steps.reverse

/-- Makes all directories on the way to the last step of a path. -/
def makeParents (path : String) : Disk Unit :=
  if Route.parent path = "" then pure () else makePath (Route.parent path)

/-- The place of the file at a path, which is made, without content, if it is not there. -/
def openFile (path : String) : Disk Place := do
  let route ← look fun _ => Route.parse path
  match ← look (·.locate route) with
  | .directory _ => throw .isADirectory
  | .named directory name =>
    if route.trailingSlash then throw .isADirectory
    match ← look (·.entry directory name) with
    | some .directory => throw .isADirectory
    | some (.file _) => pure ((← get).child directory name)
    | none => do
      let place := (← get).child directory name
      make place (.file [])
      pure place

/-- Writes the data in place of the content of the file at a place. -/
def fill (place : Place) (data : List UInt8) : Disk Unit := do
  let (outcome, content) := Content.write (← get).sizeLimit 0 data []
  modify (·.put place (.file content))
  match outcome with
  | .ok () => pure ()
  | .error fault => throw fault

/-- Writes a whole file in place of its content, and makes the file if it is not there. -/
def writeFile (path : String) (data : List UInt8) : Disk Unit := do
  let place ← openFile path
  fill place data

/-- Gives the file at a place a name in a directory, in place of a file or a link of that
name. -/
def rename (place directory : Place) (name : String) : Disk Place := do
  match ← look (·.entry directory name) with
  | some .directory => throw .isADirectory
  | _ => do
    let content := ((← get).content? place).getD []
    let target := directory ++ [name]
    modify fun volume => ((volume.remove place).remove target).put target (.file content)
    pure target

def removeFile (path : String) : Disk Unit := do
  let route ← look fun _ => Route.parse path
  match ← look (·.locate route) with
  | .directory _ => throw .isADirectory
  | .named directory name =>
    match ← look (·.entry directory name) with
    | none => throw .noSuchFile
    | some .directory => throw .isADirectory
    | some (.file _) =>
      if route.trailingSlash then throw .notADirectory
      modify (·.remove (directory ++ [name]))

end Disk

end LessonHistory
