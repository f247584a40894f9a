-- The order of precedence of the settings. What the arguments say goes before what the environment
-- says, this before the settings file, and that before what holds without any; and the arguments
-- can say all that there is to say.
import LessonHistory.CommandLine
import LessonHistory.Proofs.Record.Grammar

namespace LessonHistory

namespace Arguments

/-! ## What the environment adds -/

/-- The arguments with what the environment says of the options that they leave out. -/
def fillIn (environment : List (String × String)) (plain : Arguments) :
    Except UsageError Arguments := do
  let values ← fromVariable environment storeVariable .store plain.options
  let values ← fromVariable environment logVariable .logLevel values
  pure { plain with options := values }

theorem fromVariable_nil (name : String) (option : OptionName) (values : OptionValues) :
    fromVariable [] name option values = .ok values := by
  unfold fromVariable
  cases values.get? option <;> rfl

theorem fillIn_nil (plain : Arguments) : fillIn [] plain = .ok plain := by
  unfold fillIn
  rw [fromVariable_nil]
  simp only [bind, Except.bind, fromVariable_nil]
  rfl

theorem finish_eq_settle (environment : List (String × String)) (reading : OptionReading)
    (command : Option Command) :
    finish environment reading command
      = reading.settle >>= fun reading => fillIn environment ⟨reading.values, command⟩ := rfl

theorem finish_eq (environment : List (String × String)) (reading : OptionReading)
    (command : Option Command) :
    finish environment reading command = finish [] reading command >>= fillIn environment := by
  rw [finish_eq_settle, finish_eq_settle]
  cases reading.settle with
  | error error => rfl
  | ok reading =>
    simp only [bind, Except.bind, fillIn_nil]

/-- The environment is asked when the arguments are all read, and changes nothing of that. -/
theorem readFrom_eq (environment : List (String × String)) (reading : OptionReading)
    (arguments : List String) :
    readFrom environment reading arguments
      = readFrom [] reading arguments >>= fillIn environment := by
  induction arguments generalizing reading with
  | nil => exact finish_eq environment reading none
  | cons argument rest ih =>
    unfold readFrom
    split
    · rfl
    · simp only
      split
      · rename_i topic _
        cases Command.read topic rest with
        | error error => rfl
        | ok command => exact finish_eq environment reading (some command)
      · split
        · exact ih _
        · rename_i name value _
          cases reading.long argument name value with
          | error error => rfl
          | ok reading => exact ih reading
        · rename_i letters _
          cases reading.short argument letters with
          | error error => rfl
          | ok reading => exact ih reading
        · split
          · exact ih _
          · rfl

theorem fromVariable_store (environment : List (String × String)) (values : OptionValues) :
    fromVariable environment storeVariable .store values
      = if values.store = none ∧ environment.lookup storeVariable = some ""
        then .error (.invalidValue "store")
        else .ok { values with store := values.store.or (environment.lookup storeVariable) } := by
  unfold fromVariable OptionValues.get? OptionValues.take
  rcases values with ⟨_ | path, config, logLevel⟩
  · cases environment.lookup storeVariable with
    | none => simp
    | some path =>
      by_cases hempty : path = ""
      · simp [hempty, OptionName.long]
      · simp [hempty, OptionValues.set]
  · simp

theorem fromVariable_logLevel (environment : List (String × String)) (values : OptionValues) :
    fromVariable environment logVariable .logLevel values = .ok
      { values with logLevel := values.logLevel.or (environment.lookup logVariable) } := by
  unfold fromVariable OptionValues.get? OptionValues.take
  rcases values with ⟨store, config, _ | level⟩
  · cases environment.lookup logVariable with
    | none => simp
    | some level => simp [OptionValues.set]
  · simp

/-- An option has the value that the arguments give it, or else the one from the environment, where
the path of a log is not empty. -/
theorem fillIn_eq (environment : List (String × String)) (plain : Arguments) :
    fillIn environment plain
      = if plain.options.store = none ∧ environment.lookup storeVariable = some ""
        then .error (.invalidValue "store")
        else .ok
          { plain with options :=
            { plain.options with
              store := plain.options.store.or (environment.lookup storeVariable)
              logLevel := plain.options.logLevel.or (environment.lookup logVariable) } } := by
  unfold fillIn
  rw [fromVariable_store]
  split
  · rfl
  · simp only [bind, Except.bind, fromVariable_logLevel]
    rfl

/-! ## The written form -/

/-- An option with its value in one argument. -/
def spelled (option : OptionName) (value : String) : String := "--" ++ option.long ++ "=" ++ value

def spelledOptions (options : OptionValues) : List String :=
  options.store.toList.map (spelled .store) ++ options.config.toList.map (spelled .config)
    ++ options.logLevel.toList.map (spelled .logLevel)

def spelledCommand : Command → List String
  | .records => ["records"]
  | .changes record => ["show", record.display]
  | .compact => ["compact"]

theorem form_spelled (option : OptionName) (value : String) :
    ArgumentForm.of (spelled option value) = .long option.long (some value) := by
  unfold spelled ArgumentForm.of
  cases option <;>
    simp [OptionName.long, ArgumentForm.ofLong]

theorem ofCommand?_of_dashes {text : String} : HelpTopic.ofCommand? ("--" ++ text) = none := by
  have hne : ∀ name : String, name.toList.head? ≠ some '-' → "--" ++ text ≠ name := by
    rintro _ hname rfl
    simp at hname
  unfold HelpTopic.ofCommand?
  rw [if_neg (hne _ (by decide)), if_neg (hne _ (by decide)), if_neg (hne _ (by decide)),
    if_neg (hne _ (by decide))]

theorem readFrom_spelled {values : OptionValues} {option : OptionName} {value : String}
    (hfree : values.get? option = none) (hvalue : option = .logLevel ∨ value ≠ "")
    (environment : List (String × String)) (rest : List String) :
    readFrom environment { values } (spelled option value :: rest)
      = readFrom environment { values := values.set value option } rest := by
  have hcommand : HelpTopic.ofCommand? (spelled option value) = none := by
    unfold spelled
    rw [String.append_assoc, String.append_assoc]
    exact ofCommand?_of_dashes
  have hlong : OptionReading.long { values } (spelled option value) option.long (some value)
      = .ok { values := values.set value option } := by
    have htake : values.take option value = .ok (values.set value option) := by
      unfold OptionValues.take
      rw [if_neg]
      rintro ⟨hpath, hempty⟩
      exact hvalue.elim hpath (absurd hempty)
    have hattach : OptionReading.attach { values } option value
        = .ok { values := values.set value option } := by
      unfold OptionReading.attach OptionReading.settle
      simp only [bind, Except.bind, hfree, htake]
      rfl
    unfold OptionReading.long
    cases option <;> simp [OptionName.long, hattach]
  rw [readFrom]
  simp only [hcommand, form_spelled, hlong, OptionReading.awaitsValue]
  rfl

theorem form_display (record : Record) : ArgumentForm.of record.display = .plain := by
  unfold Record.display ArgumentForm.of
  simp

theorem readFrom_spelledCommand (options : OptionValues) (command : Command) :
    readFrom [] { values := options } (spelledCommand command) = .ok ⟨options, some command⟩ := by
  have hfinish : ∀ command, finish [] { values := options } command = .ok ⟨options, command⟩ := by
    intro command
    rw [finish_eq_settle]
    exact fillIn_nil _
  cases command with
  | records => exact hfinish _
  | changes record =>
    have hrecord : Command.read .changes [record.display] = .ok (.changes record) := by
      have hparse := Record.parse_eq_ok_iff.2 (Record.marked_display record)
      simp [Command.read, CommandReading.read, CommandReading.settle, form_display, hparse]
      rfl
    have hread : readFrom [] { values := options } (spelledCommand (.changes record))
        = Command.read .changes [record.display] >>= fun command =>
          finish [] { values := options } (some command) := rfl
    rw [hread, hrecord]
    exact hfinish _
  | compact => exact hfinish _

/-- All options and every command can be written down, options first, so that they are read. -/
theorem read_spelled {options : OptionValues} (hstore : options.store ≠ some "")
    (hconfig : options.config ≠ some "") (command : Command) :
    read [] (spelledOptions options ++ spelledCommand command) = .ok ⟨options, some command⟩ := by
  rcases options with ⟨store, config, logLevel⟩
  have hlevel : ∀ store config, readFrom [] { values := { store, config } }
      (logLevel.toList.map (spelled .logLevel) ++ spelledCommand command)
        = .ok ⟨⟨store, config, logLevel⟩, some command⟩ := by
    intro store config
    cases logLevel with
    | none => exact readFrom_spelledCommand _ command
    | some level =>
      exact (readFrom_spelled rfl (.inl rfl) [] _).trans (readFrom_spelledCommand _ command)
  have hfile : ∀ store, readFrom [] { values := { store } }
      (config.toList.map (spelled .config) ++ (logLevel.toList.map (spelled .logLevel)
        ++ spelledCommand command)) = .ok ⟨⟨store, config, logLevel⟩, some command⟩ := by
    intro store
    cases config with
    | none => exact hlevel store none
    | some path =>
      have hpath : path ≠ "" := fun h => hconfig (congrArg some h)
      exact (readFrom_spelled rfl (.inr hpath) [] _).trans (hlevel store (some path))
  unfold read spelledOptions
  rw [List.append_assoc, List.append_assoc]
  cases store with
  | none => exact hfile none
  | some path =>
    have hpath : path ≠ "" := fun h => hstore (congrArg some h)
    exact (readFrom_spelled rfl (.inr hpath) [] _).trans (hfile (some path))

end Arguments

/-! ## The settings in force -/

namespace Invocation

/-- What a run is asked for comes from the arguments alone, but for the options that these leave
out. -/
theorem read_eq (invocation : Invocation) :
    invocation.read
      = Arguments.read [] invocation.arguments >>= Arguments.fillIn invocation.environment :=
  Arguments.readFrom_eq invocation.environment {} invocation.arguments

/-- The arguments go before the environment, this before the settings file, and that before what
holds without any. The file is the one that the arguments name, and the environment names none; the
command is that of the arguments. -/
theorem the_settings_come_from_who_goes_first {invocation : Invocation} {arguments : Arguments}
    {settings : Settings} :
    invocation.read = .ok arguments ∧ invocation.settings arguments.options = .ok settings ↔
      ∃ plain file, Arguments.read [] invocation.arguments = .ok plain ∧
        Settings.fromFile invocation.volume invocation.directories plain.options.config = .ok file ∧
        (plain.options.store = none →
          invocation.environment.lookup Arguments.storeVariable ≠ some "") ∧
        arguments = ⟨{ plain.options with
          store := plain.options.store.or (invocation.environment.lookup Arguments.storeVariable)
          logLevel := plain.options.logLevel.or
            (invocation.environment.lookup Arguments.logVariable) }, plain.command⟩ ∧
        settings =
          { storePath := (plain.options.store.or
              ((invocation.environment.lookup Arguments.storeVariable).or file.storePath?)).getD
                (Settings.defaultStorePath invocation.directories)
            resolution := file.resolution?.getD .keep
            logLevel := (plain.options.logLevel.or
              ((invocation.environment.lookup Arguments.logVariable).or file.logLevel?)).getD
                "info" } := by
  rw [read_eq]
  constructor
  · rintro ⟨hread, hsettings⟩
    cases hplain : Arguments.read [] invocation.arguments with
    | error error =>
      rw [hplain] at hread
      cases hread
    | ok plain =>
      rw [hplain] at hread
      replace hread : Arguments.fillIn invocation.environment plain = .ok arguments := hread
      rw [Arguments.fillIn_eq] at hread
      split at hread
      · cases hread
      · rename_i hgiven
        cases hread
        unfold Invocation.settings Settings.load at hsettings
        cases hfile : Settings.fromFile invocation.volume invocation.directories
            plain.options.config with
        | error error =>
          simp only [hfile] at hsettings
          cases hsettings
        | ok file =>
          simp only [hfile] at hsettings
          cases hsettings
          refine ⟨plain, file, rfl, hfile, fun hnone hempty => hgiven ⟨hnone, hempty⟩, rfl, ?_⟩
          simp [Settings.resolve, Option.or_assoc]
  · rintro ⟨plain, file, hplain, hfile, hgiven, rfl, rfl⟩
    rw [hplain]
    refine ⟨?_, ?_⟩
    · change Arguments.fillIn _ plain = _
      rw [Arguments.fillIn_eq, if_neg fun h => hgiven h.1 h.2]
    · unfold Invocation.settings Settings.load
      simp only [hfile]
      simp [Settings.resolve, Option.or_assoc, Except.map]

end Invocation

end LessonHistory
