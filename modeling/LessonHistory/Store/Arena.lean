-- The store that lives in memory: the changes of every record, in the order of the records.
import LessonHistory.Store.ChangeLog

namespace LessonHistory

/-- The changes of the records `#0`, `#1` and so on. -/
structure Arena where
  slots : List (List Change)
  deriving DecidableEq

namespace Arena

/-- The store without records. -/
def empty : Arena := ⟨[]⟩

/-- The changes under a record. -/
def changes (arena : Arena) : Option Record → Except StoreError (List Change)
  | none => .ok []
  | some record =>
    match arena.slots[record.index]? with
    | some changes => .ok changes
    | none => .error (.unknownRecord record)

/-- The slots with `changes` in place of those at `index`, or behind the last slot. -/
def store (slots : List (List Change)) (index : Nat) (changes : List Change) :
    List (List Change) :=
  if index < slots.length then slots.set index changes else slots ++ [changes]

def update (arena : Arena) (record : Option Record) (changes : List Change) :
    Except StoreError Record × Arena :=
  match Record.claim arena.slots.length record with
  | .error error => (.error error, arena)
  | .ok record => (.ok record, ⟨store arena.slots record.index changes⟩)

/-- Nothing is to be done to make an arena last. -/
def force (arena : Arena) : Except StoreError Unit × Arena := (.ok (), arena)

instance : ChangeLog Arena where
  changes := changes
  update := update
  force := force
  updateAndForce := ChangeLog.updateThenForce update force
  count arena := arena.slots.length

end Arena

/-- Which operations of a store are made to fail. -/
structure Switches where
  read : Bool := false
  write : Bool := false
  flush : Bool := false
  deriving DecidableEq

/-- An arena whose operations can be made to fail. -/
structure SwitchedArena where
  arena : Arena
  switches : Switches
  deriving DecidableEq

namespace SwitchedArena

/-- The changes under a record. A failure names the first record where there is none. -/
def changes (store : SwitchedArena) (record : Option Record) : Except StoreError (List Change) :=
  if store.switches.read then .error (.read (record.getD .first) .switchedOff)
  else store.arena.changes record

def update (store : SwitchedArena) (record : Option Record) (changes : List Change) :
    Except StoreError Record × SwitchedArena :=
  if store.switches.write then (.error (.write .writeSwitchedOff), store)
  else
    let (outcome, arena) := store.arena.update record changes
    (outcome, { store with arena })

/-- Makes sure that all that was stored lasts. -/
def force (store : SwitchedArena) : Except StoreError Unit × SwitchedArena :=
  (if store.switches.flush then .error (.write .flushSwitchedOff) else .ok (), store)

instance : ChangeLog SwitchedArena where
  changes := changes
  update := update
  force := force
  updateAndForce := ChangeLog.updateThenForce update force
  count store := store.arena.slots.length

end SwitchedArena

end LessonHistory
