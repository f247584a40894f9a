-- The program as the system calls it: the files that a run can reach are read into a volume, the
-- run is made, and what it changed is written back.
import LessonHistory.CommandLine

namespace LessonHistory

def placePath (place : Place) : String := "/" ++ "/".intercalate place

/-- What the system has at a path. Reading a directory as a file fails with the number 21. -/
def findNode (path : String) : IO (Option Node) := do
  try
    let content ← IO.FS.readBinFile path
    pure (some (.file content.data.toList))
  catch
    | .noFileOrDirectory .. => pure none
    | .inappropriateType _ code _ => pure (if code = 21 then some .directory else none)
    | fault => throw fault

/-- Reads what stands on the way that the steps lead into the volume. -/
def readAlong (volume : Volume) (directory : Place) : List Step → IO Volume
  | [] => pure volume
  | .up :: rest => readAlong volume directory.dropLast rest
  | .name name :: rest => do
    let place := volume.child directory name
    match ← findNode (placePath place) with
    | none => pure volume
    | some node => readAlong (volume.put place node) place rest

/-- Reads what stands on the way that a path leads into the volume. -/
def readPath (volume : Volume) (path : String) : IO Volume :=
  match Route.parse path with
  | .error _ => pure volume
  | .ok route => readAlong volume (volume.start route) route.steps

/-- Writes a file. It is written beside its place first, so the file is never there in part. -/
def replaceContent (path : String) (content : List UInt8) : IO Unit := do
  let draft := path ++ ".draft"
  IO.FS.writeBinFile draft ⟨content.toArray⟩
  IO.FS.rename draft path

/-- Writes back what stands elsewhere than before, or is something else. -/
def writeChanged (before after : Volume) : IO Unit := do
  for (place, node) in after.nodes.reverse do
    if before.get? place ≠ some node then
      match node with
      | .directory => IO.FS.createDirAll (placePath place)
      | .file content => replaceContent (placePath place) content

/-- The variables that say something to the program. -/
def variableNames : List String :=
  ["HOME", "XDG_CONFIG_HOME", "XDG_DATA_HOME", Arguments.storeVariable, Arguments.logVariable]

/-- The variables that are set, with their values. -/
def readEnvironment : IO (List (String × String)) :=
  variableNames.filterMapM fun name => do
    pure ((← IO.getEnv name).map fun value => (name, value))

/-- The place that an absolute path names. -/
def placeNamed (path : String) : Place :=
  (Route.ofText path).steps.filterMap fun step =>
    match step with
    | .name name => some name
    | .up => none

/-- The place of the file that a stream is open on, if it is open on one. -/
def streamPlace? (number : Nat) : IO (Option (Nat × Place)) := do
  try
    let path ← IO.FS.realPath (placePath (Volume.streamDirectory ++ [toString number]))
    pure (some (number, placeNamed path.toString))
  catch _ => pure none

/-- The program is called with the given arguments, and may reach the files that it asks for. -/
def readInvocation (arguments : List String) : IO Invocation := do
  let bare : Volume :=
    { nodes := [], workingDirectory := placeNamed (← IO.currentDir).toString }
  let streams ← (Volume.standardStreams.map Prod.snd).filterMapM streamPlace?
  let invocation : Invocation :=
    { arguments
      environment := ← readEnvironment
      accountHome? := none
      volume := bare.surround streams }
  let settled := { invocation with
    volume := ← (invocation.settingsPath?.toList.foldlM readPath invocation.volume) }
  pure { settled with volume := ← (settled.storePath?.toList.foldlM readPath settled.volume) }

end LessonHistory

/-- Runs the program, and answers its exit status. -/
def main (arguments : List String) : IO UInt32 := do
  let invocation ← LessonHistory.readInvocation arguments
  let outcome := invocation.run
  LessonHistory.writeChanged invocation.volume outcome.volume
  IO.print outcome.output
  IO.eprint outcome.complaints
  pure outcome.status.toUInt32
