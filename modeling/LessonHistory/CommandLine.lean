-- One run of the program: the arguments are read, the settings found, the log opened, and the
-- command carried out. The exit status says how far the run came: 0 if all went well, 1 if
-- there are no settings, 2 if the arguments or the log could not be read, and 3 if the log could
-- not be written.
import LessonHistory.Config.Help
import LessonHistory.Config.Settings
import LessonHistory.Store.FileLog
import LessonHistory.Volume.Surroundings

namespace LessonHistory

/-! ## Reports -/

/-- The word for a severity. -/
def Severity.word : Severity → String
  | warning => "WARN"
  | error => "ERROR"

/-- Whether notices of a severity are shown at a log level. -/
def Severity.isShownAt (level : String) : Severity → Bool
  | warning => level ≠ "off" ∧ level ≠ "error"
  | error => level ≠ "off"

def Notice.line (notice : Notice) : String :=
  notice.severity.word ++ " " ++ notice.message
    ++ String.join (notice.particulars.map fun (name, value) => " " ++ name ++ "=" ++ value) ++ "\n"

/-- The lines on the notices that are shown at a log level. -/
def Notice.linesAt (level : String) (notices : List Notice) : String :=
  String.join ((notices.filter (·.severity.isShownAt level)).map line)

/-- The exit status after an error of the log. -/
def StoreError.exitStatus (error : StoreError) : Nat :=
  if error.isRead then 2 else if error.isWrite then 3 else 1

/-- Reports that a command failed on the log at a path. -/
def StoreError.notice (error : StoreError) (path : String) : Notice :=
  let kind := if error.isRead then "read" else if error.isWrite then "write" else "other"
  ⟨.error, "command failed", [("error", error.message), ("store", path), ("kind", kind)]⟩

/-! ## Commands -/

namespace FileLog

/-- One line for each record, with the number of its changes. -/
def listing (log : FileLog) : Except StoreError String :=
  log.entries.map fun entries => joinLines
    (entries.map fun entry => entry.1.display ++ "\t" ++ toString entry.2.length ++ " change(s)")

/-- One line for each change of a record. -/
def showing (log : FileLog) (record : Record) : Except StoreError String :=
  (log.changesOf record).map fun changes => joinLines (changes.map Change.display)

end FileLog

def CompactStats.line (stats : CompactStats) : String :=
  joinLines [toString stats.records ++ " record(s), " ++ toString stats.bytesBefore ++ " -> "
    ++ toString stats.bytesAfter ++ " bytes"]

/-! ## A run -/

/-- What a run of the program is given: the arguments behind its name, its environment, the home
directory of the user's account, and the files that it can reach. -/
structure Invocation where
  arguments : List String
  environment : List (String × String)
  accountHome? : Option String
  volume : Volume

/-- What a run of the program leaves. The output goes to standard output, and the complaints to
standard error. -/
structure Outcome where
  status : Nat
  output : String
  complaints : String
  volume : Volume

namespace Invocation

def directories (invocation : Invocation) : UserDirectories :=
  .ofEnvironment invocation.environment invocation.accountHome?

def read (invocation : Invocation) : Except UsageError Arguments :=
  Arguments.read invocation.environment invocation.arguments

def settings (invocation : Invocation) (options : OptionValues) : Except ConfigError Settings :=
  Settings.load invocation.volume invocation.directories options

/-- Opens the log at a path. A device cannot be given the length of a log. -/
def openLog (invocation : Invocation) (path : String) : FileLog.Opening :=
  let opening := FileLog.openPath invocation.volume path
  match opening.result with
  | .error _ => opening
  | .ok log =>
    if log.file = .linked Volume.emptyDevice then
      ⟨.error (.open path .invalidArgument), opening.volume.put Volume.emptyDevice (.file []), []⟩
    else opening

/-- Carries out a command on a log. -/
def perform (log : FileLog) : Command → Except StoreError String × FileLog
  | .records => (log.listing, log)
  | .changes record => (log.showing record, log)
  | .compact =>
    let (outcome, log) := log.compact
    (outcome.map CompactStats.line, log)

/-- Opens the log and carries out a command. -/
def runCommand (invocation : Invocation) (settings : Settings) (command : Command) : Outcome :=
  let opening := invocation.openLog settings.storePath
  let failure (error : StoreError) (volume : Volume) : Outcome :=
    { status := error.exitStatus
      output := ""
      complaints := Notice.linesAt settings.logLevel
        (opening.notices ++ [error.notice settings.storePath])
      volume }
  match opening.result with
  | .error error => failure error opening.volume
  | .ok log =>
    match perform log command with
    | (.error error, log) => failure error log.volume
    | (.ok output, log) =>
      { status := 0
        output
        complaints := Notice.linesAt settings.logLevel opening.notices
        volume := log.volume }

/-- Runs the program. Without a command the records are listed. -/
def run (invocation : Invocation) : Outcome :=
  match invocation.read with
  | .error error =>
    match error.answer? invocation.environment with
    | some output => ⟨0, output, "", invocation.volume⟩
    | none => ⟨2, "", "error: " ++ error.message ++ "\n", invocation.volume⟩
  | .ok arguments =>
    match invocation.settings arguments.options with
    | .error error =>
      ⟨1, "", "Error loading configuration: " ++ error.message ++ "\n", invocation.volume⟩
    | .ok settings => invocation.runCommand settings (arguments.command.getD .records)

/-- The path of the settings file that a run looks for. -/
def settingsPath? (invocation : Invocation) : Option String :=
  invocation.read.toOption.bind fun arguments =>
    arguments.options.config.or (invocation.directories.config?.map Settings.userFile)

/-- The path of the log that a run opens. -/
def storePath? (invocation : Invocation) : Option String := do
  let arguments ← invocation.read.toOption
  let settings ← (invocation.settings arguments.options).toOption
  pure settings.storePath

end Invocation

end LessonHistory
