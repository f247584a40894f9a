-- Stores that a failure does no harm. An update that succeeds does what it does to an arena, and
-- one that fails leaves what the store holds as it was. The arena, the arena whose operations can
-- be made to fail, as long as its flushes succeed, and the log file are such stores.
import LessonHistory.Proofs.Store.Faithful

namespace LessonHistory

/-- What comes of an update is what comes of it in an arena, or else nothing has changed. -/
def Arena.Explains {σ : Type} (arena : Arena) (Holds : σ → Arena → Prop) (record : Option Record)
    (changes : List Change) : Except StoreError Record × σ → Prop
  | (.ok given, after) =>
    Record.claim arena.slots.length record = .ok given ∧ Holds after (arena.put (given, changes))
  | (.error _, after) => Holds after arena

/-- A store that does as an arena does, and that holds after a failure what it held before. -/
class SafeLog (σ : Type) [ChangeLog σ] where
  Holds : σ → Arena → Prop
  count_eq {store : σ} {arena : Arena} (holds : Holds store arena) :
    ChangeLog.count store = arena.slots.length
  changes_eq {store : σ} {arena : Arena} {record : Option Record} {changes : List Change}
    (holds : Holds store arena) (read : ChangeLog.changes store record = .ok changes) :
    arena.changes record = .ok changes
  update_explained {store : σ} {arena : Arena} (holds : Holds store arena)
    (record : Option Record) (changes : List Change) :
    arena.Explains Holds record changes (ChangeLog.update store record changes)
  updateAndForce_explained {store : σ} {arena : Arena} (holds : Holds store arena)
    (record : Option Record) (changes : List Change) :
    arena.Explains Holds record changes (ChangeLog.updateAndForce store record changes)

/-! ## The stores -/

theorem Arena.update_explained (arena : Arena) (record : Option Record) (changes : List Change) :
    arena.Explains Eq record changes (arena.update record changes) := by
  unfold update
  cases hclaim : Record.claim arena.slots.length record with
  | error error => rfl
  | ok given => exact ⟨hclaim, rfl⟩

instance : SafeLog Arena where
  Holds := Eq
  count_eq := by
    rintro store _ rfl
    rfl
  changes_eq := @FaithfulLog.changes_eq Arena _ _
  update_explained := by
    rintro store _ rfl record changes
    exact store.update_explained record changes
  updateAndForce_explained := by
    rintro store _ rfl record changes
    rw [Arena.updateAndForce_eq_update]
    exact store.update_explained record changes

theorem SwitchedArena.update_explained {store : SwitchedArena}
    (hflush : store.switches.flush = false) (record : Option Record) (changes : List Change) :
    store.arena.Explains (fun after arena => after.arena = arena ∧ after.switches.flush = false)
      record changes (store.update record changes) := by
  unfold update
  split
  · exact ⟨rfl, hflush⟩
  · have hexplained := store.arena.update_explained record changes
    rcases hupdate : store.arena.update record changes with ⟨_ | given, next⟩
    all_goals rw [hupdate] at hexplained
    · obtain rfl : next = store.arena := hexplained
      exact ⟨rfl, hflush⟩
    · obtain ⟨hclaim, rfl⟩ := hexplained
      exact ⟨hclaim, rfl, hflush⟩

instance : SafeLog SwitchedArena where
  Holds store arena := store.arena = arena ∧ store.switches.flush = false
  count_eq := by
    rintro store _ ⟨rfl, -⟩
    rfl
  changes_eq := by
    rintro store _ record changes ⟨rfl, -⟩ read
    exact FaithfulLog.changes_eq (show FaithfulLog.Holds store store.arena from rfl) read
  update_explained := by
    rintro store _ ⟨rfl, hflush⟩ record changes
    exact SwitchedArena.update_explained hflush record changes
  updateAndForce_explained := by
    rintro store _ ⟨rfl, hflush⟩ record changes
    have hexplained := SwitchedArena.update_explained hflush record changes
    change store.arena.Explains _ record changes
      (ChangeLog.updateThenForce SwitchedArena.update SwitchedArena.force store record changes)
    unfold ChangeLog.updateThenForce
    rcases hupdate : store.update record changes with ⟨_ | given, next⟩
    all_goals rw [hupdate] at hexplained
    · exact hexplained
    · obtain ⟨hclaim, harena, hnext⟩ := hexplained
      simp only [SwitchedArena.force, hnext, Bool.false_eq_true, if_false]
      exact ⟨hclaim, harena, hnext⟩

theorem FileLog.Mirrors.update_explained {log : FileLog} {directory : Place} {name : String}
    {arena : Arena} (h : log.Mirrors directory name arena) (record : Option Record)
    (changes : List Change) :
    arena.Explains (fun log arena => ∃ directory name, FileLog.Mirrors log directory name arena)
      record changes (log.update record changes) := by
  unfold update
  rcases h.append_cases record changes with ⟨error, -, happend⟩ | ⟨given, cause, -, -, happend⟩ |
    ⟨fault, next, -, hnext, happend⟩ | ⟨given, next, hclaim, happend, hnext, -⟩
  · rw [happend]
    exact ⟨directory, name, h⟩
  · rw [happend]
    exact ⟨directory, name, h⟩
  · rw [happend]
    exact ⟨directory, name, hnext⟩
  · rw [happend]
    exact ⟨hclaim, directory, name, hnext⟩

instance : SafeLog FileLog where
  Holds log arena := ∃ directory name, log.Mirrors directory name arena
  count_eq := by
    rintro log arena ⟨directory, name, hmirrors⟩
    exact hmirrors.count_eq
  changes_eq := by
    rintro log arena record changes hmirrors read
    exact FaithfulLog.changes_eq hmirrors read
  update_explained := by
    rintro log arena ⟨directory, name, hmirrors⟩ record changes
    exact hmirrors.update_explained record changes
  updateAndForce_explained := by
    rintro log arena ⟨directory, name, hmirrors⟩ record changes
    change arena.Explains _ record changes (log.updateAndForce record changes)
    rw [log.updateAndForce_eq_update]
    exact hmirrors.update_explained record changes

end LessonHistory
