-- The settings in force: arguments and environment come first, then the settings file, then
-- what holds without any.
import LessonHistory.Config.Arguments
import LessonHistory.Config.FileSettings
import LessonHistory.Volume.Tree

namespace LessonHistory

/-- The settings in force. The resolution is for conflicts that nobody else answers. -/
structure Settings where
  storePath : String
  resolution : Resolution
  logLevel : String
  deriving DecidableEq

/-- Why there are no settings. -/
inductive ConfigError where
  | readFile (path : String) (fault : Fault)
  | parse (cause : SettingsError)
  deriving DecidableEq

def ConfigError.message : ConfigError → String
  | readFile path fault => "failed to read config file " ++ path ++ ": " ++ fault.message
  | parse cause => "failed to parse config file: " ++ cause.message

/-- The user's directories, as far as they are known. -/
structure UserDirectories where
  config? : Option String
  data? : Option String
  deriving DecidableEq

namespace UserDirectories

/-- An absolute path that is named, or else a path below the home directory. -/
def choose (named? home? : Option String) (below : String) : Option String :=
  match named?.filter fun path => path.toList.head? = some '/' with
  | some path => some path
  | none => home?.map fun home => joinPath home below

/-- The directories that the environment names. An account has a home of its own, for when the
environment names none. -/
def ofEnvironment (environment : List (String × String)) (accountHome? : Option String) :
    UserDirectories :=
  let home? := ((environment.lookup "HOME").filter (· ≠ "")).or accountHome?
  { config? := choose (environment.lookup "XDG_CONFIG_HOME") home? ".config"
    data? := choose (environment.lookup "XDG_DATA_HOME") home? ".local/share" }

end UserDirectories

namespace Settings

/-- Where the log file is when nobody says so. -/
def defaultStorePath (directories : UserDirectories) : String :=
  joinPath (directories.data?.getD "") "lessonsync/frameworkLessonHistory/storage"

/-- The user's own settings file in the directory for such files. -/
def userFile (directory : String) : String := joinPath directory "lessonsync/config.toml"

/-- The settings in the file at a path. -/
def readFile (volume : Volume) (path : String) : Except ConfigError FileSettings :=
  match volume.readText path with
  | .error fault => .error (.readFile path fault)
  | .ok content =>
    match FileSettings.parse content with
    | .error cause => .error (.parse cause)
    | .ok settings => .ok settings

/-- The settings in the file that the arguments name, or else in the user's own file. The
latter need not be there. -/
def fromFile (volume : Volume) (directories : UserDirectories) (named? : Option String) :
    Except ConfigError FileSettings :=
  match named? with
  | some path => readFile volume path
  | none =>
    match directories.config? with
    | none => .ok {}
    | some directory =>
      match readFile volume (userFile directory) with
      | .error (.readFile _ .noSuchFile) => .ok {}
      | outcome => outcome

/-- The settings in force, from what the arguments and the settings file say. -/
def resolve (directories : UserDirectories) (options : OptionValues) (file : FileSettings) :
    Settings :=
  { storePath := (options.store.or file.storePath?).getD (defaultStorePath directories)
    resolution := file.resolution?.getD .keep
    logLevel := (options.logLevel.or file.logLevel?).getD "info" }

def load (volume : Volume) (directories : UserDirectories) (options : OptionValues) :
    Except ConfigError Settings :=
  (fromFile volume directories options.config).map (resolve directories options)

end Settings

end LessonHistory
