-- What a settings file says, as far as it matters. Keys without a meaning are passed over. A
-- section may also be an array, whose items stand for its keys in their order.
import LessonHistory.Config.Toml.Document
import LessonHistory.Lesson.Propagation

namespace LessonHistory

/-- The settings that a settings file can hold, in its sections for the storage, conflicts and the
log. -/
structure FileSettings where
  storePath? : Option String := none
  resolution? : Option Resolution := none
  logLevel? : Option String := none
  deriving DecidableEq

/-- Why the text of a settings file gives no settings: it is no TOML, or what stands under a key is
no section, or no value for it. -/
inductive SettingsError where
  | document (cause : Toml.DocumentError)
  | section (key : String)
  | value (key : String)
  deriving DecidableEq

def SettingsError.message : SettingsError → String
  | document cause => cause.message
  | .section key => "invalid type for section " ++ key
  | value key => "invalid value for key " ++ key

namespace FileSettings

/-- What stands under the only key of a section, if anything does. A time has the form of a
section without known keys. -/
def only? (key : String) : Toml.Value → Option (Option Toml.Value)
  | .table _ entries => some (entries.lookup key)
  | .array items => some items.head?
  | .tables elements => some (elements.head?.map (.table .header))
  | .dateTime _ => some none
  | _ => none

/-- The value of the only key of a section, read by `read?`. -/
def setting {α : Type} (entries : Toml.Entries) (sectionKey key : String)
    (read? : Toml.Value → Option α) : Except SettingsError (Option α) :=
  match entries.lookup sectionKey with
  | none => .ok none
  | some found =>
    match only? key found with
    | none => .error (.section sectionKey)
    | some none => .ok none
    | some (some value) =>
      match read? value with
      | some a => .ok (some a)
      | none => .error (.value key)

def textOf? : Toml.Value → Option String
  | .text value => some value
  | _ => none

/-- The resolution with a name. -/
def resolutionNamed? (name : String) : Option Resolution :=
  if name = "keep" then some .keep
  else if name = "replace" then some .replace
  else none

/-- Whether a value holds nothing. -/
def isEmpty : Toml.Value → Bool
  | .array [] => true
  | .table _ [] => true
  | .tables [] => true
  | _ => false

/-- The resolution that a value names, as a text or as the only key of a table, with nothing
under it. -/
def resolutionOf? : Toml.Value → Option Resolution
  | .text name => resolutionNamed? name
  | .table _ [(name, value)] => if isEmpty value then resolutionNamed? name else none
  | _ => none

/-- The settings among the entries of a file. -/
def ofEntries (entries : Toml.Entries) : Except SettingsError FileSettings := do
  let storePath? ← setting entries "storage" "path" textOf?
  let resolution? ← setting entries "conflict" "default" resolutionOf?
  let logLevel? ← setting entries "log" "level" textOf?
  pure { storePath?, resolution?, logLevel? }

/-- The settings in the text of a file. -/
def parse (content : String) : Except SettingsError FileSettings :=
  match Toml.parse content with
  | .error cause => .error (.document cause)
  | .ok entries => ofEntries entries

end FileSettings

end LessonHistory
