-- What every store of changes can do. A store gives out records, and holds under each record
-- the changes that were last stored under it. An operation that fails still gives the store
-- that it leaves behind.
import LessonHistory.Store.Error

namespace LessonHistory

/-- A store of changes. A task without a record has no changes, and an update without one takes a
new record. What was forced lasts. -/
class ChangeLog (σ : Type) where
  changes : σ → Option Record → Except StoreError (List Change)
  update : σ → Option Record → List Change → Except StoreError Record × σ
  force : σ → Except StoreError Unit × σ
  updateAndForce : σ → Option Record → List Change → Except StoreError Record × σ
  count : σ → Nat

namespace ChangeLog

/-- An update followed by a flush: when the flush fails, the update stays, and the caller does
not learn the record. -/
def updateThenForce {σ : Type} (update : σ → Option Record → List Change → Except StoreError Record × σ)
    (force : σ → Except StoreError Unit × σ) (store : σ) (record : Option Record)
    (changes : List Change) : Except StoreError Record × σ :=
  match update store record changes with
  | (.error error, store) => (.error error, store)
  | (.ok record, store) =>
    match force store with
    | (.error error, store) => (.error error, store)
    | (.ok (), store) => (.ok record, store)

end ChangeLog

/-- The record to store under when `count` records are given out: a record that was given out
stays the same, and without one the next record is taken. -/
def Record.claim (count : Nat) : Option Record → Except StoreError Record
  | some record =>
    if record.index < count then .ok record else .error (.unknownRecord record)
  | none =>
    match Record.ofNat? count with
    | some record => .ok record
    | none => .error .recordSpaceExhausted

end LessonHistory
