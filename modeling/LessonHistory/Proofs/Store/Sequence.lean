-- Entries one after the other, as an arena. Where the records come up in the order of their
-- indices, the arena has for each record the changes of its last entry, and as many slots as
-- there are different records.
import LessonHistory.FileState
import LessonHistory.Proofs.Store.Scan
import Mathlib.Data.Finset.Card

namespace LessonHistory

namespace Journal

/-- The arena that one entry after the other was put into. -/
def arenaOf (entries : List Entry) : Arena := entries.foldl Arena.put .empty

theorem arenaOf_concat (entries : List Entry) (entry : Entry) :
    arenaOf (entries ++ [entry]) = (arenaOf entries).put entry := by
  unfold arenaOf
  rw [List.foldl_append]
  rfl

/-- Every record comes up for the first time when all records before it have. -/
inductive InSequence : List Entry → Prop where
  | nil : InSequence []
  | concat {entries : List Entry} {entry : Entry} (before : InSequence entries)
      (next : entry.1.index ≤ (arenaOf entries).slots.length) : InSequence (entries ++ [entry])

namespace InSequence

variable {entries : List Entry}

theorem front (h : InSequence entries) {first back : List Entry}
    (hentries : entries = first ++ back) : InSequence first := by
  induction h generalizing back with
  | nil =>
    obtain ⟨rfl, rfl⟩ := List.nil_eq_append_iff.1 hentries
    exact .nil
  | @concat entries entry before next ih =>
    rcases List.eq_nil_or_concat back with rfl | ⟨back, last, rfl⟩
    · rw [List.append_nil] at hentries
      exact hentries ▸ before.concat next
    · rw [List.concat_eq_append, ← List.append_assoc] at hentries
      exact ih (List.append_inj' hentries rfl).1

/-- The record of an entry is one that was there before, or the next. -/
theorem index_le (h : InSequence entries) {first back : List Entry} {entry : Entry}
    (hentries : entries = first ++ entry :: back) :
    entry.1.index ≤ (arenaOf first).slots.length := by
  have hsplit : entries = (first ++ [entry]) ++ back := by simp [hentries]
  have hfront := h.front hsplit
  generalize hall : first ++ [entry] = all at hfront
  cases hfront with
  | nil => simp at hall
  | concat before next =>
    obtain ⟨rfl, hsame⟩ := List.append_inj' hall rfl
    cases hsame
    exact next

/-- A record has the changes of its last entry. -/
theorem slot_eq (h : InSequence entries) (record : Record) :
    (arenaOf entries).slots[record.index]? = entries.reverse.lookup record := by
  induction h with
  | nil => rfl
  | @concat entries entry before next ih =>
    rw [arenaOf_concat, List.reverse_append, List.reverse_singleton, List.singleton_append,
      FileState.lookup_entry_cons, ← ih, Arena.getElem?_put next]
    simp only [Record.index_inj]

theorem mem_records_iff (h : InSequence entries) (record : Record) :
    record ∈ entries.map Prod.fst ↔ record.index < (arenaOf entries).slots.length := by
  rw [← not_iff_not, Nat.not_lt, ← List.getElem?_eq_none_iff, h.slot_eq, List.lookup_eq_none_iff]
  constructor
  · intro hrecord entry hentry
    simp only [bne_iff_ne, ne_eq]
    rintro rfl
    exact hrecord (List.mem_map_of_mem (List.mem_reverse.1 hentry))
  · intro hnone hrecord
    obtain ⟨entry, hentry, rfl⟩ := List.mem_map.1 hrecord
    have := hnone entry (List.mem_reverse.2 hentry)
    simp at this

theorem length_slots (h : InSequence entries) :
    (arenaOf entries).slots.length = (entries.map Prod.fst).toFinset.card := by
  induction h with
  | nil => rfl
  | @concat entries entry before next ih =>
    have hmem := before.mem_records_iff entry.1
    rw [arenaOf_concat, Arena.length_put]
    have hinsert : ((entries ++ [entry]).map Prod.fst).toFinset
        = insert entry.1 (entries.map Prod.fst).toFinset := by
      ext record
      simp
    rw [hinsert]
    split
    · rename_i hlt
      rw [Finset.insert_eq_of_mem (List.mem_toFinset.2 (hmem.2 hlt)), ih]
    · rename_i hge
      rw [Finset.card_insert_of_notMem (fun hold => hge (hmem.1 (List.mem_toFinset.1 hold))), ih]

end InSequence

end Journal

end LessonHistory
