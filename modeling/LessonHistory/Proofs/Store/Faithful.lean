-- Stores that can be relied on: what such a store answers, when it does not fail, is what an
-- arena answers. Both the arena itself and the log file are such stores, and so is the arena
-- whose operations can be made to fail.
import LessonHistory.Proofs.Store.Refinement

namespace LessonHistory

/-- A store that does as an arena does, unless it fails. -/
class FaithfulLog (σ : Type) [ChangeLog σ] where
  Holds : σ → Arena → Prop
  changes_eq {store : σ} {arena : Arena} {record : Option Record} {changes : List Change}
    (holds : Holds store arena) (read : ChangeLog.changes store record = .ok changes) :
    arena.changes record = .ok changes
  updateAndForce_eq {store after : σ} {arena : Arena} {record : Option Record}
    {changes : List Change} {given : Record} (holds : Holds store arena)
    (written : ChangeLog.updateAndForce store record changes = (.ok given, after)) :
    ∃ next, arena.update record changes = (.ok given, next) ∧ Holds after next

/-! ## What an update does to an arena -/

namespace Arena

variable {arena next : Arena} {record : Option Record} {changes : List Change} {given : Record}

theorem claim_of_update (h : arena.update record changes = (.ok given, next)) :
    Record.claim arena.slots.length record = .ok given ∧ next = arena.put (given, changes) := by
  unfold update at h
  split at h
  · cases h
  · rename_i hclaim
    cases h
    exact ⟨hclaim, rfl⟩

theorem changes_put (hle : given.index ≤ arena.slots.length) (other : Record) :
    (arena.put (given, changes)).changes (some other)
      = if other = given then .ok changes else arena.changes (some other) := by
  have hsame : other.index = given.index ↔ other = given := by
    rcases other with ⟨i, hi⟩
    rcases given with ⟨j, hj⟩
    simp
  have hget : (arena.put (given, changes)).slots[other.index]?
      = if other.index = given.index then some changes else arena.slots[other.index]? :=
    getElem?_put hle other.index
  unfold Arena.changes
  simp only [hget, hsame]
  by_cases h : other = given <;> simp [h]

theorem exists_changes (hissued : ∀ given ∈ record, given.index < arena.slots.length) :
    ∃ stored, arena.changes record = .ok stored := by
  unfold changes
  cases record with
  | none => exact ⟨[], rfl⟩
  | some given =>
    have hlt := hissued given rfl
    simp only [List.getElem?_eq_getElem hlt]
    exact ⟨_, rfl⟩

end Arena

/-! ## The stores -/

instance : FaithfulLog Arena where
  Holds store arena := store = arena
  changes_eq := by
    rintro store _ record changes rfl read
    exact read
  updateAndForce_eq := by
    rintro store after _ record changes given rfl written
    rw [Arena.updateAndForce_eq_update] at written
    exact ⟨after, written, rfl⟩

instance : FaithfulLog SwitchedArena where
  Holds store arena := store.arena = arena
  changes_eq := by
    rintro store _ record changes rfl read
    change store.changes record = _ at read
    unfold SwitchedArena.changes at read
    split at read
    · cases read
    · exact read
  updateAndForce_eq := by
    rintro store after _ record changes given rfl written
    change ChangeLog.updateThenForce SwitchedArena.update SwitchedArena.force store record changes
      = _ at written
    unfold ChangeLog.updateThenForce SwitchedArena.update SwitchedArena.force at written
    cases hwrite : store.switches.write with
    | true => simp [hwrite] at written
    | false =>
      rcases hupdate : store.arena.update record changes with ⟨_ | found, next⟩
      · simp [hwrite, hupdate] at written
      · cases hflush : store.switches.flush with
        | true => simp [hwrite, hupdate, hflush] at written
        | false =>
          simp only [hwrite, hupdate, hflush, Bool.false_eq_true, if_false] at written
          cases written
          exact ⟨next, rfl, rfl⟩

instance : FaithfulLog FileLog where
  Holds log arena := ∃ directory name, log.Mirrors directory name arena
  changes_eq := by
    rintro log arena record changes ⟨directory, name, hmirrors⟩ read
    rw [← hmirrors.changes_eq]
    exact read
  updateAndForce_eq := by
    rintro log after arena record changes given ⟨directory, name, hmirrors⟩ written
    change log.updateAndForce record changes = _ at written
    rw [log.updateAndForce_eq_update] at written
    obtain ⟨hclaim, hnext, -⟩ := hmirrors.of_update written
    refine ⟨_, ?_, directory, name, hnext⟩
    unfold Arena.update
    rw [hclaim]
    rfl

end LessonHistory
