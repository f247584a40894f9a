-- Paths as texts: segments between slashes. Empty segments and single dots lead nowhere, two
-- dots lead up, and every other segment is a name.
import LessonHistory.Volume.Fault

namespace LessonHistory

/-- One step on the way to a file: to the directory above, or to the entry of a name. -/
inductive Step where
  | up
  | name (text : String)
  deriving DecidableEq

/-- The way that a path describes. A slash at the end of the path asks for a directory, and so does
a single dot as the last segment, with or without slashes behind it. -/
structure Route where
  absolute : Bool
  steps : List Step
  trailingSlash : Bool
  trailingDot : Bool
  deriving DecidableEq

namespace Route

/-- The segments between the slashes of a path. -/
def segments : List Char → List (List Char)
  | [] => [[]]
  | c :: rest =>
    if c = '/' then [] :: segments rest
    else
      match segments rest with
      | [] => [[c]]
      | first :: others => (c :: first) :: others

/-- Whether a segment leads nowhere. -/
def isIdle (segment : List Char) : Bool := segment = [] || segment = ['.']

/-- The step that a segment stands for. -/
def stepOf? (segment : List Char) : Option Step :=
  if isIdle segment then none
  else if segment = ['.', '.'] then some .up
  else some (.name (String.ofList segment))

/-- The way that a path describes, whatever the path is used for. -/
def ofText (path : String) : Route :=
  let parts := segments path.toList
  { absolute := path.toList.head? = some '/'
    steps := parts.filterMap stepOf?
    trailingSlash := parts.getLast? = some []
    trailingDot := (parts.reverse.dropWhile (· = [])).head? = some ['.'] }

/-- The path without its last step; it is empty where only the start is left. -/
def parent (path : String) : String :=
  let before := ((segments path.toList).reverse.dropWhile isIdle).tail.dropWhile isIdle
  String.ofList (['/'].intercalate before.reverse)

def maxPathBytes : Nat := 4095

def maxNameBytes : Nat := 255

/-- The way that a path describes, if the path can be used at all. -/
def parse (path : String) : Except Fault Route :=
  if path.toList.any (· = '\x00') then .error .nulInPath
  else if path.toList = [] then .error .noSuchFile
  else if maxPathBytes < path.utf8ByteSize then .error .nameTooLong
  else .ok (ofText path)

end Route

/-- One path below another, as text: an absolute second path stands for itself. -/
def joinPath (root path : String) : String :=
  if path.toList.head? = some '/' ∨ root.toList = [] then path
  else if root.toList.getLast? = some '/' then root ++ path
  else root ++ "/" ++ path

end LessonHistory
