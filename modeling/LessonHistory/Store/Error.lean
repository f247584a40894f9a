-- The ways in which keeping the changes of the tasks fails, and which of them are failures to
-- read and which are failures to write.
import LessonHistory.Volume.Fault
import LessonHistory.Wire.Frame

namespace LessonHistory

/-- Why stored changes could not be read back, which may also have been switched off. -/
inductive ReadFault where
  | io (fault : Fault)
  | payloadChecksum (offset : Nat)
  | codec (cause : CodecError)
  | otherRecord (offset : Nat) (found : Record)
  | switchedOff
  deriving DecidableEq

def ReadFault.message : ReadFault → String
  | io fault => fault.message
  | payloadChecksum offset => s!"frame at offset {offset} fails its checksum"
  | codec cause => cause.message
  | otherRecord offset found => s!"frame at offset {offset} belongs to record {found.display}"
  | switchedOff => "simulated read failure"

/-- Why changes could not be written, which may also have been switched off, as may flushing. -/
inductive WriteFault where
  | io (fault : Fault)
  | codec (cause : CodecError)
  | flush (fault : Fault)
  | compaction (path : String) (fault : Fault)
  | writeSwitchedOff
  | flushSwitchedOff
  deriving DecidableEq

def WriteFault.message : WriteFault → String
  | io fault => fault.message
  | codec cause => cause.message
  | flush fault => "flush failed: " ++ fault.message
  | compaction path fault => "compaction of " ++ path ++ " failed: " ++ fault.message
  | writeSwitchedOff => "simulated write failure"
  | flushSwitchedOff => "simulated flush failure"

/-- What is wrong with the content of a log file. A frame is out of sequence when it leaves out
records before its own. -/
inductive Damage where
  | headerMissing
  | versionUnsupported (version : UInt8)
  | versionMissing
  | lengthChecksum
  | payloadChecksum
  | codec (cause : CodecError)
  | outOfSequence (found : Record)
  deriving DecidableEq

def Damage.message : Damage → String
  | headerMissing => "missing change log header"
  | versionUnsupported version => s!"unsupported format version {version.toNat}"
  | versionMissing => "missing format version"
  | lengthChecksum => "frame length fails its checksum"
  | payloadChecksum => "frame payload fails its checksum"
  | codec cause => cause.message
  | outOfSequence found => s!"record {found.display} out of sequence"

/-- Why an operation on stored changes failed. -/
inductive StoreError where
  | unknownRecord (record : Record)
  | read (record : Record) (cause : ReadFault)
  | write (cause : WriteFault)
  | recordSpaceExhausted
  | open (path : String) (fault : Fault)
  | corrupt (path : String) (offset : Nat) (damage : Damage)
  deriving DecidableEq

namespace StoreError

def message : StoreError → String
  | unknownRecord record => "unknown record " ++ record.display
  | read record cause => "failed to read record " ++ record.display ++ ": " ++ cause.message
  | write cause => "failed to write change log: " ++ cause.message
  | recordSpaceExhausted => "record space exhausted"
  | .open path fault => "failed to open change log " ++ path ++ ": " ++ fault.message
  | corrupt path offset damage =>
    "change log " ++ path ++ " is corrupt at offset " ++ toString offset ++ ": " ++ damage.message

/-- Whether the error arose while stored changes were read. -/
def isRead : StoreError → Bool
  | unknownRecord _ => true
  | read _ _ => true
  | .open _ _ => true
  | corrupt _ _ _ => true
  | _ => false

/-- Whether the error arose while changes were written. -/
def isWrite : StoreError → Bool
  | write _ => true
  | recordSpaceExhausted => true
  | _ => false

end StoreError

end LessonHistory
