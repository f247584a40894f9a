-- The store that lives in a log file. Every update appends one frame, and the offset of the
-- last frame of every record is kept beside the open file. A log whose file is deleted stays
-- usable, with a file that has no name.
import LessonHistory.Notice
import LessonHistory.Store.ChangeLog
import LessonHistory.Store.Journal
import LessonHistory.Text.Quoted
import LessonHistory.Volume.Tree

namespace LessonHistory

/-- An open file: the one at a place of the volume, or one without a name. -/
inductive OpenFile where
  | linked (place : Place)
  | unlinked (content : List UInt8)
  deriving DecidableEq

/-- An open log, with the volume that its file is on and the path under which it was opened. -/
structure FileLog where
  volume : Volume
  path : String
  file : OpenFile
  index : Journal.Index
  deriving DecidableEq

/-- What a compaction did. -/
structure CompactStats where
  records : Nat
  bytesBefore : Nat
  bytesAfter : Nat
  deriving DecidableEq

namespace FileLog

/-! ## The file of a log -/

/-- The bytes of the log file. -/
def content (log : FileLog) : List UInt8 :=
  match log.file with
  | .linked place => (log.volume.content? place).getD []
  | .unlinked content => content

/-- The log with other bytes in its file. -/
def withContent (log : FileLog) (content : List UInt8) : FileLog :=
  match log.file with
  | .linked place => { log with volume := log.volume.put place (.file content) }
  | .unlinked _ => { log with file := .unlinked content }

/-- The log after the directory at `place` was deleted with all that it held. -/
def afterRemoval (log : FileLog) (place : Place) : FileLog :=
  match log.file with
  | .linked at_ =>
    { log with
      volume := log.volume.removeTree place
      file := if place.isPrefixOf at_ then .unlinked log.content else log.file }
  | .unlinked _ => { log with volume := log.volume.removeTree place }

/-! ## Opening -/

/-- Reports that an incomplete header is written anew. -/
def headerNotice (path : String) (length : Nat) : Notice :=
  ⟨.warning, "rewriting incomplete header", [("path", path), ("file_len", toString length)]⟩

/-- Reports that an incomplete frame is cut off. -/
def tailNotice (path : String) (valid length : Nat) : Notice :=
  ⟨.warning, "dropping incomplete trailing frame",
    [("path", path), ("valid_len", toString valid), ("file_len", toString length)]⟩

/-- Reports that what a failed update left behind could not be cut off. -/
def rollbackNotice (offset : Nat) (fault : Fault) : Notice :=
  ⟨.warning, "failed to roll back partial frame",
    [("error", fault.message), ("offset", toString offset)]⟩

/-- Reports that an update that was not flushed could not be cut off. -/
def unflushedNotice (fault : Fault) : Notice :=
  ⟨.warning, "failed to roll back unflushed frame", [("error", fault.message)]⟩

/-- The notices about the repair of a log file of the given content. -/
def repairNotices (path : String) (content : List UInt8) (index : Journal.Index) :
    Journal.Repair → List Notice
  | .nothing => []
  | .header => if content = [] then [] else [headerNotice path content.length]
  | .tail => [tailNotice path index.finish content.length]

/-- The content of a log file after its repair, as far as the size limit allows it. -/
def repaired (limit : Option Nat) (content : List UInt8) (index : Journal.Index) :
    Journal.Repair → Except Fault Unit × List UInt8
  | .nothing => (.ok (), content)
  | .header => Content.write limit 0 Journal.header []
  | .tail => (.ok (), content.take index.finish)

/-- What came of opening a log. -/
structure Opening where
  result : Except StoreError FileLog
  volume : Volume
  notices : List Notice

/-- Opens the file at a path as a log. -/
def openAt (volume : Volume) (path : String) (place : Place) : Opening :=
  let content := (volume.content? place).getD []
  match Journal.recover content with
  | .error (offset, damage) => ⟨.error (.corrupt path offset damage), volume, []⟩
  | .ok (index, repair) =>
    let notices := repairNotices path content index repair
    let (outcome, mended) := repaired volume.sizeLimit content index repair
    let volume := volume.put place (.file mended)
    match outcome with
    | .error fault => ⟨.error (.open path fault), volume, notices⟩
    | .ok () => ⟨.ok ⟨volume, path, .linked place, index⟩, volume, notices⟩

/-- Opens the log at a path. The file, and the directories on the way to it, are made if they
are missing. A damaged file is left as it is. -/
def openPath (volume : Volume) (path : String) : Opening :=
  let reach : Disk Place := do
    Disk.makeParents path
    Disk.openFile path
  match reach.run volume with
  | (.error fault, volume) => ⟨.error (.open path fault), volume, []⟩
  | (.ok place, volume) => openAt volume path place

/-! ## Reading -/

def count (log : FileLog) : Nat := log.index.offsets.length

/-- The changes of a record. -/
def changesOf (log : FileLog) (record : Record) : Except StoreError (List Change) :=
  match log.index.offsets[record.index]? with
  | none => .error (.unknownRecord record)
  | some offset =>
    match Journal.changesAt log.content offset record with
    | .error cause => .error (.read record cause)
    | .ok changes => .ok changes

/-- The changes under a record. -/
def changes (log : FileLog) : Option Record → Except StoreError (List Change)
  | none => .ok []
  | some record => log.changesOf record

/-- The changes of every record, in the order of the records. Where every record is given out,
their number is out of range. -/
def entries (log : FileLog) : Except StoreError (List Journal.Entry) :=
  if log.count < 4294967296 then
    (List.range log.count).mapM fun i =>
      match Record.ofNat? i with
      | none => .error .recordSpaceExhausted
      | some record => (log.changesOf record).map fun changes => (record, changes)
  else .error .recordSpaceExhausted

/-! ## Writing -/

/-- Writes the bytes behind the last whole frame. What a failed write leaves there is cut off
again. -/
def writeAtFinish (log : FileLog) (bytes : List UInt8) :
    Except Fault Unit × FileLog × List Notice :=
  let limit := log.volume.sizeLimit
  let (outcome, content) := Content.write limit log.index.finish bytes log.content
  match outcome with
  | .ok () => (.ok (), log.withContent content, [])
  | .error fault =>
    match Content.setLength limit log.index.finish content with
    | .ok content => (.error fault, log.withContent content, [])
    | .error rollback =>
      (.error fault, log.withContent content, [rollbackNotice log.index.finish rollback])

/-- Where the last frames are after one more frame of `length` bytes for a record. -/
def noteAppended (index : Journal.Index) (record : Record) (length : Nat) : Journal.Index :=
  { offsets :=
      if record.index < index.offsets.length then index.offsets.set record.index index.finish
      else index.offsets ++ [index.finish]
    finish := index.finish + length }

/-- Appends the changes of a record, or of a new one. -/
def append (log : FileLog) (record : Option Record) (changes : List Change) :
    Except StoreError Record × FileLog × List Notice :=
  match Record.claim log.count record with
  | .error error => (.error error, log, [])
  | .ok record =>
    match Journal.frame (record, changes) with
    | .error cause => (.error (.write (.codec cause)), log, [])
    | .ok frame =>
      match log.writeAtFinish frame with
      | (.error fault, log, notices) => (.error (.write (.io fault)), log, notices)
      | (.ok (), log, notices) =>
        (.ok record, { log with index := noteAppended log.index record frame.length }, notices)

/-- Puts changes under a record, or under a new one. -/
def update (log : FileLog) (record : Option Record) (changes : List Change) :
    Except StoreError Record × FileLog :=
  let (outcome, log, _) := log.append record changes
  (outcome, log)

/-- Where the frames of a log ended before an update, and the offset that the update may change. -/
structure Checkpoint where
  finish : Nat
  records : Nat
  rebound : Option (Nat × Nat)
  deriving DecidableEq

def checkpoint (log : FileLog) (record : Option Record) : Checkpoint :=
  { finish := log.index.finish
    records := log.index.offsets.length
    rebound := do
      let record ← record
      let offset ← log.index.offsets[record.index]?
      return (record.index, offset) }

/-- The offsets without those of new records, and with the one that may have changed. -/
def Checkpoint.offsets (checkpoint : Checkpoint) (found : List Nat) : List Nat :=
  let kept := found.take checkpoint.records
  match checkpoint.rebound with
  | none => kept
  | some (index, offset) => kept.set index offset

/-- Forgets every frame appended since the checkpoint and cuts it off the file. -/
def restore (log : FileLog) (checkpoint : Checkpoint) : Except Fault Unit × FileLog :=
  let log := { log with index := ⟨checkpoint.offsets log.index.offsets, checkpoint.finish⟩ }
  match Content.setLength log.volume.sizeLimit checkpoint.finish log.content with
  | .ok content => (.ok (), log.withContent content)
  | .error fault => (.error fault, log)

/-- What comes of a flush, as the device below the volume does it. -/
def sync (flushed : Except Fault Unit) (log : FileLog) : Except StoreError Unit × FileLog :=
  match flushed with
  | .ok () => (.ok (), log)
  | .error fault => (.error (.write (.flush fault)), log)

/-- Appends the changes of a record, or of a new one, and flushes them. When the flush fails, the
append is taken back. -/
def appendAndSync (flushed : Except Fault Unit) (log : FileLog) (record : Option Record)
    (changes : List Change) : Except StoreError Record × FileLog × List Notice :=
  let checkpoint := log.checkpoint record
  match log.append record changes with
  | (.error error, log, notices) => (.error error, log, notices)
  | (.ok record, log, notices) =>
    match log.sync flushed with
    | (.ok (), log) => (.ok record, log, notices)
    | (.error error, log) =>
      match log.restore checkpoint with
      | (.ok (), log) => (.error error, log, notices)
      | (.error rollback, log) => (.error error, log, notices ++ [unflushedNotice rollback])

/-- On a device that does not fail, what is written lasts; nothing else is to be done. -/
def force (log : FileLog) : Except StoreError Unit × FileLog := log.sync (.ok ())

/-- Appends the changes of a record, or of a new one, and makes sure that they last. -/
def appendAndForce (log : FileLog) (record : Option Record) (changes : List Change) :
    Except StoreError Record × FileLog × List Notice :=
  log.appendAndSync (.ok ()) record changes

/-- Puts changes under a record, or under a new one, and makes sure that they last. -/
def updateAndForce (log : FileLog) (record : Option Record) (changes : List Change) :
    Except StoreError Record × FileLog :=
  let (outcome, log, _) := log.appendAndForce record changes
  (outcome, log)

instance : ChangeLog FileLog where
  changes := changes
  update := update
  force := force
  updateAndForce := updateAndForce
  count := count

/-! ## Compaction -/

/-- The path under which a new file is written before it takes the place of the one at `path`:
a name of ten characters beside it. -/
def draftPath (workingDirectory : Place) (path : String) : String :=
  let start :=
    if (Route.ofText path).absolute then "/" else "/" ++ "/".intercalate workingDirectory
  let parent := Route.parent path
  joinPath (joinPath start (if parent = "" then "." else parent)) ".draft0000"

/-- Writes a draft to its end and gives it the name that the steps end in. -/
def finishDraft (draft : Place) (bytes : List UInt8) (directory : Place) (steps : List Step) :
    Disk Place := do
  Disk.fill draft bytes
  match steps.getLast? with
  | some (.name name) => Disk.rename draft directory name
  | _ => throw .isADirectory

/-- Puts a new file with the given bytes at the path of the log. The bytes are written into a
draft beside the log, which then takes the log's name. A draft that cannot be finished is
removed. -/
def replaceFile (path : String) (bytes : List UInt8) : Disk Place := do
  let route ← Disk.look fun _ => Route.parse path
  let _ ← Disk.look fun volume => Route.parse (draftPath volume.workingDirectory path)
  let directory ← Disk.look fun volume =>
    volume.enter (volume.start route) route.steps.dropLast
  let draft := directory ++ [(← get).unusedName]
  Disk.make draft (.file [])
  tryCatch (finishDraft draft bytes directory route.steps) fun fault => do
    modify (·.remove draft)
    throw fault

/-- Cuts the log down to the last frame of every record. -/
def compact (log : FileLog) : Except StoreError CompactStats × FileLog :=
  match log.entries with
  | .error error => (.error error, log)
  | .ok entries =>
    match Journal.image entries with
    | .error cause => (.error (.write (.codec cause)), log)
    | .ok (bytes, offsets) =>
      match (replaceFile log.path bytes).run log.volume with
      | (.error fault, volume) =>
        (.error (.write (.compaction log.path fault)), { log with volume })
      | (.ok place, volume) =>
        (.ok ⟨entries.length, log.index.finish, bytes.length⟩,
          ⟨volume, log.path, .linked place, ⟨offsets, bytes.length⟩⟩)

/-! ## Showing -/

/-- One line on the log for whoever looks for a fault. -/
def describe (log : FileLog) : String :=
  "FileChangeLog \x7b path: " ++ Quoted.encode log.path ++ ", records: " ++ toString log.count ++ " \x7d"

end FileLog

end LessonHistory
