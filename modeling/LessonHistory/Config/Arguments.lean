-- The arguments of the command line: options first, then a command with its own arguments.
-- Arguments are taken from left to right, and an option is checked only when the next one
-- begins or the arguments end. So of two faults the one that is met first is reported.
import LessonHistory.Config.Usage

namespace LessonHistory

/-! ## The form of an argument -/

/-- What an argument looks like. Behind two dashes alone there are no options; a long option may
have a value behind an equals sign. -/
inductive ArgumentForm where
  | dashes
  | long (name : String) (value : Option String)
  | short (letters : List Char)
  | plain

/-- The form of a long option, behind its dashes. -/
def ArgumentForm.ofLong (text : List Char) : ArgumentForm :=
  let name := String.ofList (text.takeWhile (· ≠ '='))
  match text.dropWhile (· ≠ '=') with
  | [] => .long name none
  | _ :: value => .long name (some (String.ofList value))

def ArgumentForm.of (argument : String) : ArgumentForm :=
  match argument.toList with
  | '-' :: '-' :: [] => .dashes
  | '-' :: '-' :: text => ofLong text
  | '-' :: c :: letters => .short (c :: letters)
  | _ => .plain

/-! ## The arguments of a command -/

/-- How far the arguments of a command are read: the text of its record, and whether two dashes
were passed. -/
structure CommandReading where
  text : Option String := none
  behindDashes : Bool := false

namespace CommandReading

/-- The record, if there is one, and if its text is one. -/
def settle (reading : CommandReading) : Except UsageError (Option Record) :=
  match reading.text with
  | none => .ok none
  | some text =>
    match Record.parse text with
    | .ok record => .ok (some record)
    | .error _ => .error (.valueValidation text)

/-- Reads the arguments of a command, which takes a record if `wantsRecord` is set. -/
def read (topic : HelpTopic) (wantsRecord : Bool) (reading : CommandReading) :
    List String → Except UsageError (Option Record)
  | [] => reading.settle
  | argument :: rest =>
    let help : Except UsageError (Option Record) := do
      let _ ← reading.settle
      .error (.displayHelp topic)
    let asText : Except UsageError (Option Record) :=
      if wantsRecord ∧ reading.text = none then
        read topic wantsRecord { reading with text := some argument } rest
      else .error (.unknownArgument argument)
    if reading.behindDashes then asText
    else
      match ArgumentForm.of argument with
      | .dashes => read topic wantsRecord { reading with behindDashes := true } rest
      | .long "help" none => help
      | .long "help" (some _) => .error (.tooManyValues "help")
      | .long _ _ => .error (.unknownArgument argument)
      | .short ('h' :: _) => help
      | .short _ => .error (.unknownArgument argument)
      | .plain => asText

end CommandReading

/-- The topic of the command with a name. -/
def HelpTopic.ofCommand? (name : String) : Option HelpTopic :=
  if name = "records" then some .records
  else if name = "show" then some .changes
  else if name = "compact" then some .compact
  else if name = "help" then some .help
  else none

/-- What the arguments behind the word `help` ask for. -/
def helpOn : List String → UsageError
  | [] => .displayHelp .program
  | [name] =>
    match HelpTopic.ofCommand? name with
    | some topic => .displayHelp topic
    | none => .invalidSubcommand name
  | name :: next :: _ =>
    .invalidSubcommand (if (HelpTopic.ofCommand? name).isSome then next else name)

/-- Reads a command, given by its topic, with its arguments. -/
def Command.read (topic : HelpTopic) (arguments : List String) : Except UsageError Command :=
  match topic with
  | .records => do
    let _ ← CommandReading.read topic false {} arguments
    pure .records
  | .compact => do
    let _ ← CommandReading.read topic false {} arguments
    pure .compact
  | .changes => do
    match ← CommandReading.read topic true {} arguments with
    | some record => pure (.changes record)
    | none => .error .missingRequiredArgument
  | _ => .error (helpOn arguments)

/-! ## The options of the program -/

/-- An option that is met but not yet checked, with its value once that is met too. -/
structure PendingOption where
  option : OptionName
  value : Option String

/-- How far the options are read. -/
structure OptionReading where
  values : OptionValues := {}
  pending : Option PendingOption := none
  behindDashes : Bool := false

namespace OptionReading

/-- Whether the next argument may be the value of an option. -/
def awaitsValue (reading : OptionReading) : Bool :=
  reading.pending.any (·.value.isNone)

/-- Checks the option that was met last. -/
def settle (reading : OptionReading) : Except UsageError OptionReading :=
  match reading.pending with
  | none => .ok reading
  | some ⟨option, none⟩ => .error (.invalidValue option.long)
  | some ⟨option, some value⟩ =>
    if (reading.values.get? option).isSome then .error (.argumentConflict option.long)
    else do
      let values ← reading.values.take option value
      pure { reading with values, pending := none }

/-- Meets an option whose value is in the same argument, and checks it. -/
def attach (reading : OptionReading) (option : OptionName) (value : String) :
    Except UsageError OptionReading := do
  let reading ← reading.settle
  { reading with pending := some ⟨option, some value⟩ }.settle

/-- Meets an option whose value is to come in the next argument. -/
def await (reading : OptionReading) (option : OptionName) : Except UsageError OptionReading := do
  let reading ← reading.settle
  pure { reading with pending := some ⟨option, none⟩ }

/-- Meets a flag that asks for something else than a log. -/
def divert (reading : OptionReading) (error : UsageError) : Except UsageError OptionReading := do
  let _ ← reading.settle
  .error error

/-- Meets an option in its long form. -/
def long (reading : OptionReading) (argument name : String) (value : Option String) :
    Except UsageError OptionReading :=
  let option (name : OptionName) : Except UsageError OptionReading :=
    match value with
    | some value => reading.attach name value
    | none => reading.await name
  let flag (error : UsageError) : Except UsageError OptionReading :=
    match value with
    | some _ => .error (.tooManyValues name)
    | none => reading.divert error
  if name = "store" then option .store
  else if name = "config" then option .config
  else if name = "log-level" then option .logLevel
  else if name = "help" then flag (.displayHelp .program)
  else if name = "version" then flag .displayVersion
  else .error (.unknownArgument argument)

/-- Meets letters behind one dash. What stands behind the letter of an option is its value,
less an equals sign in front. -/
def short (reading : OptionReading) (argument : String) :
    List Char → Except UsageError OptionReading
  | [] => .ok reading
  | c :: rest =>
    let option (name : OptionName) : Except UsageError OptionReading :=
      match rest with
      | [] => reading.await name
      | '=' :: value => reading.attach name (String.ofList value)
      | value => reading.attach name (String.ofList value)
    if c = 's' then option .store
    else if c = 'c' then option .config
    else if c = 'h' then reading.divert (.displayHelp .program)
    else if c = 'V' then reading.divert .displayVersion
    else .error (.unknownArgument argument)

end OptionReading

namespace Arguments

/-- The names of the variables that stand in for options. -/
def storeVariable : String := "LESSONSYNC_STORE"

@[inherit_doc storeVariable]
def logVariable : String := "LESSONSYNC_LOG"

/-- The value of an option from the environment, where the arguments give none. -/
def fromVariable (environment : List (String × String)) (name : String) (option : OptionName)
    (values : OptionValues) : Except UsageError OptionValues :=
  match values.get? option, environment.lookup name with
  | none, some value => values.take option value
  | _, _ => .ok values

/-- The end of the arguments: the last option is checked, and then the environment is asked. -/
def finish (environment : List (String × String)) (reading : OptionReading)
    (command : Option Command) : Except UsageError Arguments := do
  let reading ← reading.settle
  let values ← fromVariable environment storeVariable .store reading.values
  let values ← fromVariable environment logVariable .logLevel values
  pure ⟨values, command⟩

/-- An argument that is neither an option nor a command. -/
def stray (behindDashes : Bool) (argument : String) : UsageError :=
  if behindDashes ∧ (HelpTopic.ofCommand? argument).isSome then .unknownArgument argument
  else .invalidSubcommand argument

/-- Reads the arguments behind those that are read. -/
def readFrom (environment : List (String × String)) (reading : OptionReading) :
    List String → Except UsageError Arguments
  | [] => finish environment reading none
  | argument :: rest =>
    if reading.behindDashes then .error (stray true argument)
    else
      let command? := if reading.awaitsValue then none else HelpTopic.ofCommand? argument
      match command? with
      | some topic => do
        let command ← Command.read topic rest
        finish environment reading (some command)
      | none =>
        match ArgumentForm.of argument with
        | .dashes => readFrom environment { reading with behindDashes := true } rest
        | .long name value => do
          let reading ← reading.long argument name value
          readFrom environment reading rest
        | .short letters => do
          let reading ← reading.short argument letters
          readFrom environment reading rest
        | .plain =>
          match reading.pending with
          | some ⟨option, none⟩ =>
            readFrom environment { reading with pending := some ⟨option, some argument⟩ } rest
          | _ => .error (stray false argument)

/-- Reads the arguments of the command line, with variables from the environment. -/
def read (environment : List (String × String)) (arguments : List String) :
    Except UsageError Arguments :=
  readFrom environment {} arguments

end Arguments

end LessonHistory
