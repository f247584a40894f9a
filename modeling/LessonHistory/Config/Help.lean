-- What the command line says about itself: the help on each topic, the version, and the reports
-- of arguments that nothing can be done with.
import LessonHistory.Config.Arguments

namespace LessonHistory

def programVersion : String := "lessonsync 0.1.0"

/-- The lines as one text. -/
def joinLines (lines : List String) : String := String.join (lines.map (· ++ "\n"))

namespace HelpTopic

/-- Names a variable that stands in for an option, with its value. -/
def variableNote (environment : List (String × String)) (name : String) : String :=
  "[env: " ++ name ++ "=" ++ (environment.lookup name).getD "" ++ "]"

/-- The help on the program as a whole. -/
def programLines (environment : List (String × String)) : List String :=
  ["Inspect and maintain a framework lesson change log",
    "",
    "Usage: lessonsync [OPTIONS] [COMMAND]",
    "",
    "Commands:",
    "  records  List every record with its number of changes",
    "  show     Print the changes stored under one record",
    "  compact  Rewrite the log keeping only the latest frame of each record",
    "  help     Print this message or the help of the given subcommand(s)",
    "",
    "Options:",
    "  -s, --store <STORE>          Path of the change log file "
      ++ variableNote environment Arguments.storeVariable,
    "  -c, --config <CONFIG>        Path to config file (default: `~/.config/lessonsync/config.toml`)",
    "      --log-level <LOG_LEVEL>  Log level filter (trace, debug, info, warn, error) "
      ++ variableNote environment Arguments.logVariable,
    "  -h, --help                   Print help",
    "  -V, --version                Print version"]

/-- The help on one command: what it does, how it is called, and its arguments if it has any. -/
def commandLines (purpose usage : String) (arguments : List String) : List String :=
  [purpose, "", "Usage: lessonsync " ++ usage, ""]
    ++ (if arguments.isEmpty then [] else "Arguments:" :: arguments ++ [""])
    ++ ["Options:", "  -h, --help  Print help"]

def text (environment : List (String × String)) : HelpTopic → String
  | program => joinLines (programLines environment)
  | records => joinLines (commandLines "List every record with its number of changes" "records" [])
  | changes =>
    joinLines (commandLines "Print the changes stored under one record" "show <RECORD>"
      ["  <RECORD>  Record handle, e.g. `#3` or `3`"])
  | compact =>
    joinLines (commandLines "Rewrite the log keeping only the latest frame of each record"
      "compact" [])
  | help =>
    joinLines
      ["Print this message or the help of the given subcommand(s)",
        "",
        "Usage: lessonsync help [COMMAND]...",
        "",
        "Arguments:",
        "  [COMMAND]...  Print help for the subcommand(s)"]

end HelpTopic

namespace UsageError

/-- What the user asked to be told, if that is why there is nothing to do with a log. -/
def answer? (environment : List (String × String)) : UsageError → Option String
  | displayHelp topic => some (topic.text environment)
  | displayVersion => some (joinLines [programVersion])
  | _ => none

def message : UsageError → String
  | invalidValue option => "a value is required for '--" ++ option ++ "' but none was supplied"
  | unknownArgument argument => "unexpected argument '" ++ argument ++ "' found"
  | invalidSubcommand name => "unrecognized subcommand '" ++ name ++ "'"
  | valueValidation value => "invalid value '" ++ value ++ "' for '<RECORD>'"
  | argumentConflict option =>
    "the argument '--" ++ option ++ "' cannot be used multiple times"
  | missingRequiredArgument => "the required argument '<RECORD>' was not provided"
  | tooManyValues flag => "the flag '--" ++ flag ++ "' takes no value"
  | displayHelp _ => "help was asked for"
  | displayVersion => "the version was asked for"

end UsageError

end LessonHistory
