-- Which files of a task are tests. A course names directories whose files are tests, and one
-- file name that is a test. Every other file belongs to the task itself.
import LessonHistory.FileState
import LessonHistory.Notice

namespace LessonHistory

/-- Why test directories cannot be used. An empty one would make every file a test, and an absolute
one matches no path of a task. -/
inductive ClassificationError where
  | emptyTestDir
  | absoluteTestDir (directory : String)
  deriving DecidableEq

def ClassificationError.message : ClassificationError → String
  | emptyTestDir => "test directory entry is empty"
  | absoluteTestDir directory => "test directory " ++ directory ++ " is not relative"

/-- What tells tests from the files of the task: a path is that of a test if it starts with one of
the directories, or is that of the file. -/
structure Classifier where
  testDirs : List String
  testFile? : Option String
  deriving DecidableEq

namespace Classifier

/-- The classifier by which nothing is a test. -/
def noTests : Classifier := ⟨[], none⟩

/-- What is wrong with a test directory. -/
def dirError? (directory : String) : Option ClassificationError :=
  match directory.toList with
  | [] => some .emptyTestDir
  | '/' :: _ => some (.absoluteTestDir directory)
  | '\\' :: _ => some (.absoluteTestDir directory)
  | _ => none

/-- The classifier of a course, if its test directories can be used. An empty file name is
none. -/
def ofCourse (testDirs : List String) (testFile? : Option String) :
    Except ClassificationError Classifier :=
  match testDirs.findSome? dirError? with
  | some error => .error error
  | none => .ok ⟨testDirs, testFile?.filter (· ≠ "")⟩

/-- Reports that the test directories cannot be used. -/
def unusableNotice (error : ClassificationError) : Notice :=
  ⟨.warning, "unusable test classification, treating all files as task files",
    [("error", error.message)]⟩

/-- The classifier of a course, or, with a notice, the one by which nothing is a test. -/
def lenient (testDirs : List String) (testFile? : Option String) : Classifier × List Notice :=
  match ofCourse testDirs testFile? with
  | .ok classifier => (classifier, [])
  | .error error => (noTests, [unusableNotice error])

/-- Whether the file at a path is a test. -/
def isTest (classifier : Classifier) (path : String) : Bool :=
  classifier.testFile? = some path ||
    classifier.testDirs.any fun directory => directory.toList.isPrefixOf path.toList

def testFiles (classifier : Classifier) (state : FileState) : FileState :=
  state.filter classifier.isTest

def taskFiles (classifier : Classifier) (state : FileState) : FileState :=
  state.filter fun path => !classifier.isTest path

end Classifier

end LessonHistory
