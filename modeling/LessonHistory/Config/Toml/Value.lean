-- Tables of a settings file in TOML, and how its lines build them up. A table is defined once:
-- what a header or an inline table has defined is not extended from elsewhere, and a key gets
-- one value.

namespace LessonHistory

namespace Toml

/-- How a table came about: between braces, by a header of its own, as a part of the path in the
header of another table, or as a part of a dotted key. Nothing can be added to the first kind
later. -/
inductive Origin where
  | inline
  | header
  | implied
  | dotted
  deriving DecidableEq

/-- A value in a settings file. Numbers and times are kept as they are written, and the tables under
headers in double brackets are told from arrays. -/
inductive Value where
  | text (value : String)
  | boolean (value : Bool)
  | integer (value : Int)
  | float (literal : String)
  | dateTime (literal : String)
  | array (items : List Value)
  | table (origin : Origin) (entries : List (String × Value))
  | tables (elements : List (List (String × Value)))

/-- Keys with their values. -/
abbrev Entries := List (String × Value)

/-- Why lines that are well formed give no table. -/
inductive BuildError where
  | definedTwice (key : String)
  | notATable (key : String)
  deriving DecidableEq

namespace Entries

/-- The entries with another value for a key. -/
def replace (entries : Entries) (key : String) (value : Value) : Entries :=
  entries.map fun entry => if entry.1 = key then (key, value) else entry

/-- Changes the table that the keys lead to. Tables that are missing on the way are made. A
dotted key does not lead into a table that a header defined. -/
def change (dotted : Bool) (f : Origin → Entries → Except BuildError Entries) (origin : Origin) :
    List String → Entries → Except BuildError Entries
  | [], entries => f origin entries
  | key :: path, entries =>
    match entries.lookup key with
    | none => do
      let made := if dotted then Origin.dotted else .implied
      let inner ← change dotted f made path []
      pure (entries ++ [(key, .table made inner)])
    | some (.table found inner) =>
      if found = .inline then .error (.notATable key)
      else if dotted ∧ found = .header then .error (.definedTwice key)
      else do
        let inner ← change dotted f found path inner
        pure (entries.replace key (.table found inner))
    | some (.tables elements) =>
      match elements.getLast? with
      | none => .error (.notATable key)
      | some last => do
        let last ← change dotted f .header path last
        pure (entries.replace key (.tables (elements.dropLast ++ [last])))
    | some _ => .error (.notATable key)

/-- Gives a value to a key in a table that a dotted key led to, or that is the current one. -/
def put (isDotted : Bool) (key : String) (value : Value) (origin : Origin) (entries : Entries) :
    Except BuildError Entries :=
  if isDotted ∧ origin ≠ .dotted then .error (.definedTwice key)
  else if (entries.lookup key).isSome then .error (.definedTwice key)
  else .ok (entries ++ [(key, value)])

/-- Gives a value to a dotted key. -/
def assign (path : List String) (key : String) (value : Value) (origin : Origin)
    (entries : Entries) : Except BuildError Entries :=
  change true (put (!path.isEmpty) key value) origin path entries

/-- Defines the table of a header by its last key. -/
def define (key : String) (_ : Origin) (entries : Entries) : Except BuildError Entries :=
  match entries.lookup key with
  | none => .ok (entries ++ [(key, .table .header [])])
  | some (.table .implied inner) => .ok (entries.replace key (.table .header inner))
  | some _ => .error (.definedTwice key)

/-- Adds one more table under a header in double brackets by its last key. -/
def defineElement (key : String) (_ : Origin) (entries : Entries) : Except BuildError Entries :=
  match entries.lookup key with
  | none => .ok (entries ++ [(key, .tables [[]])])
  | some (.tables elements) => .ok (entries.replace key (.tables (elements ++ [[]])))
  | some _ => .error (.definedTwice key)

end Entries

/-! ## Lines -/

/-- A line of a settings file: a header in brackets or in double brackets, or a value for a key of
the current table. Paths are split before their last key. -/
inductive Line where
  | header (path : List String) (key : String)
  | elementHeader (path : List String) (key : String)
  | assignment (path : List String) (key : String) (value : Value)

/-- Where the lines have led: all entries, and the path of the current table. -/
structure Building where
  root : Entries
  current : List String

/-- Takes in one line. -/
def Building.add (building : Building) : Line → Except BuildError Building
  | .header path key => do
    let root ← building.root.change false (Entries.define key) .header path
    pure ⟨root, path ++ [key]⟩
  | .elementHeader path key => do
    let root ← building.root.change false (Entries.defineElement key) .header path
    pure ⟨root, path ++ [key]⟩
  | .assignment path key value => do
    let root ← building.root.change false (Entries.assign path key value) .header building.current
    pure { building with root }

/-- The entries that all the lines give. -/
def build (lines : List Line) : Except BuildError Entries := do
  let building ← lines.foldlM Building.add ⟨[], []⟩
  pure building.root

end Toml

end LessonHistory
