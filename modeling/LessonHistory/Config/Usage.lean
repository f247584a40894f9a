-- What the command line can ask for: a command with its options, or help. The arguments may
-- also be at fault, in one of a few ways.
import LessonHistory.Record

namespace LessonHistory

/-- What to do with the log. -/
inductive Command where
  | records
  | changes (record : Record)
  | compact
  deriving DecidableEq

/-- What a user can ask for help on. -/
inductive HelpTopic where
  | program
  | records
  | changes
  | compact
  | help
  deriving DecidableEq

/-- Why the arguments give nothing to do with a log. Help, or the version, may be asked for
instead. -/
inductive UsageError where
  | invalidValue (option : String)
  | unknownArgument (argument : String)
  | invalidSubcommand (name : String)
  | valueValidation (value : String)
  | argumentConflict (option : String)
  | missingRequiredArgument
  | tooManyValues (flag : String)
  | displayHelp (topic : HelpTopic)
  | displayVersion
  deriving DecidableEq

/-- The options that take a value. -/
inductive OptionName where
  | store
  | config
  | logLevel
  deriving DecidableEq

def OptionName.long : OptionName → String
  | store => "store"
  | config => "config"
  | logLevel => "log-level"

/-- The values of the options. -/
structure OptionValues where
  store : Option String := none
  config : Option String := none
  logLevel : Option String := none
  deriving DecidableEq

/-- The arguments of the command line. -/
structure Arguments where
  options : OptionValues
  command : Option Command
  deriving DecidableEq

namespace OptionValues

def get? (values : OptionValues) : OptionName → Option String
  | .store => values.store
  | .config => values.config
  | .logLevel => values.logLevel

def set (values : OptionValues) (value : String) : OptionName → OptionValues
  | .store => { values with store := some value }
  | .config => { values with config := some value }
  | .logLevel => { values with logLevel := some value }

/-- The values with one more, if it can be a value of the option: paths are not empty. -/
def take (values : OptionValues) (option : OptionName) (value : String) :
    Except UsageError OptionValues :=
  if option ≠ .logLevel ∧ value = "" then .error (.invalidValue option.long)
  else .ok (values.set value option)

end OptionValues

end LessonHistory
