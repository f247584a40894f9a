import LessonHistory.Diff
import LessonHistory.Lesson.Navigator
import LessonHistory.Main
import LessonHistory.Store.Arena
import LessonHistory.Workspace.Directory
import LessonHistory.Proofs.Wire.RoundTrip
import LessonHistory.Proofs.Wire.Checksum
import LessonHistory.Proofs.Wire.Delimiting
import LessonHistory.Proofs.Wire.Shortest
import LessonHistory.Proofs.Store.Frames
import LessonHistory.Proofs.Store.Scan
import LessonHistory.Proofs.Volume.Content
import LessonHistory.Proofs.Volume.Reach
import LessonHistory.Proofs.Store.LogFile
import LessonHistory.Proofs.Store.Mirror
import LessonHistory.Proofs.Store.Refinement
import LessonHistory.Proofs.Store.TornLog
import LessonHistory.Proofs.Store.Damage
import LessonHistory.Proofs.Store.InBounds
import LessonHistory.Proofs.Store.Recovery
import LessonHistory.Proofs.Store.ReadBack
import LessonHistory.Proofs.Store.Undone
import LessonHistory.Proofs.Store.Compaction
import LessonHistory.Proofs.Change.Diff
import LessonHistory.Proofs.Lesson.Carry
import LessonHistory.Proofs.Store.Faithful
import LessonHistory.Proofs.Lesson.Session
import LessonHistory.Proofs.Lesson.Sound
import LessonHistory.Proofs.Lesson.Recall
import LessonHistory.Proofs.Lesson.Steady
import LessonHistory.Proofs.Store.Safe
import LessonHistory.Proofs.Lesson.Work
import LessonHistory.Proofs.Lesson.Records
import LessonHistory.Proofs.Lesson.Fitting
import LessonHistory.Proofs.Lesson.Visit
import LessonHistory.Proofs.Volume.Below
import LessonHistory.Proofs.Workspace.Layout
import LessonHistory.Proofs.Workspace.Stepwise
import LessonHistory.Proofs.Lesson.Stopped
import LessonHistory.Proofs.Lesson.Forward
import LessonHistory.Proofs.Lesson.Metadata
import LessonHistory.Proofs.Volume.Missing
import LessonHistory.Proofs.Workspace.Answers
import LessonHistory.Proofs.Lesson.Rebase
import LessonHistory.Proofs.Store.Intact
import LessonHistory.Proofs.Lesson.Solution
import LessonHistory.Proofs.Wire.Decoding
import LessonHistory.Proofs.Wire.Stream
import LessonHistory.Proofs.Lesson.Bounds
import LessonHistory.Proofs.Volume.Unlinked
import LessonHistory.Proofs.Workspace.Confined
import LessonHistory.Proofs.Lesson.Split
import LessonHistory.Proofs.Record.Grammar
import LessonHistory.Proofs.Store.Flush
import LessonHistory.Proofs.Lesson.Journey
import LessonHistory.Proofs.CommandLine.Runs
import LessonHistory.Proofs.Config.Precedence
