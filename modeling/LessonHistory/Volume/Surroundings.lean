-- What a running program finds around itself: the directories that tell it which files its
-- streams are open on and where it works. Their names lead to places that are known elsewhere,
-- and nothing can be made among them.
import LessonHistory.Volume.Tree

namespace LessonHistory

namespace Volume

/-- The place of the file that is always empty. -/
def emptyDevice : Place := ["dev", "null"]

/-- The directory with a name for each open stream, which is the number of the stream. -/
def streamDirectory : Place := ["proc", "self", "fd"]

/-- The names of the three standard streams, with their numbers. -/
def standardStreams : List (String × Nat) := [("stdin", 0), ("stdout", 1), ("stderr", 2)]

/-- The directories around a running program. -/
def surroundingDirectories : List Place :=
  [["dev"], ["proc"], ["proc", "self"], streamDirectory, ["sys"]]

/-- Where the names around a running program lead, when its streams are open on the files at
the given places and it works in `workingDirectory`. -/
def surroundingLinks (streams : List (Nat × Place)) (workingDirectory : Place) :
    List (Place × Place) :=
  streams.map (fun (number, place) => (streamDirectory ++ [toString number], place))
    ++ standardStreams.filterMap (fun (name, number) =>
      (streams.lookup number).map fun place => (["dev", name], place))
    ++ [(["dev", "fd"], streamDirectory),
      (["proc", "thread-self"], ["proc", "self"]),
      (["proc", "self", "cwd"], workingDirectory),
      (["proc", "self", "root"], [])]

/-- The volume as a program finds it that runs with the given streams. -/
def surround (volume : Volume) (streams : List (Nat × Place)) : Volume :=
  { volume with
    nodes := volume.nodes ++ surroundingDirectories.map fun place => (place, .directory)
    links := surroundingLinks streams volume.workingDirectory ++ volume.links
    sealedPlaces := [["proc"], ["sys"]] ++ volume.sealedPlaces }

end Volume

end LessonHistory
