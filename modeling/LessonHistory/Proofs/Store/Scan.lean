-- What the content of a log file holds, as an arena. The link between the two is kept by every
-- frame that is put behind the content, and it is all that a reader of the log relies on: the
-- scan of the content gives the index beside the open file, and the frame at the offset of a
-- record is one of that record.
import LessonHistory.Proofs.Store.Frames
import LessonHistory.Store.Arena

namespace LessonHistory

/-! ## Lists with one item set, or put behind the last -/

theorem getElem?_set_or_append {α : Type} (items : List α) {index : Nat}
    (h : index ≤ items.length) (item : α) (i : Nat) :
    (if index < items.length then items.set index item else items ++ [item])[i]?
      = if i = index then some item else items[i]? := by
  by_cases hi : i = index
  · subst hi
    rw [if_pos rfl]
    split
    · rw [List.getElem?_set_self (by assumption)]
    · have hlast : i = items.length := by omega
      rw [hlast, List.getElem?_concat_length]
  · rw [if_neg hi]
    split
    · rw [List.getElem?_set_ne (Ne.symm hi)]
    · rcases Nat.lt_or_ge i items.length with hlt | hge
      · rw [List.getElem?_append_left hlt]
      · rw [List.getElem?_eq_none (by simp; omega), List.getElem?_eq_none hge]

theorem length_set_or_append {α : Type} (items : List α) (index : Nat) (item : α) :
    (if index < items.length then items.set index item else items ++ [item]).length
      = if index < items.length then items.length else items.length + 1 := by
  split
  · rw [List.length_set]
  · rw [List.length_append, List.length_singleton]

/-- The arena with the changes of one more entry. -/
def Arena.put (arena : Arena) (entry : Journal.Entry) : Arena :=
  ⟨store arena.slots entry.1.index entry.2⟩

theorem Arena.getElem?_put {arena : Arena} {entry : Journal.Entry}
    (h : entry.1.index ≤ arena.slots.length) (i : Nat) :
    (arena.put entry).slots[i]? = if i = entry.1.index then some entry.2 else arena.slots[i]? :=
  getElem?_set_or_append arena.slots h entry.2 i

theorem Arena.length_put (arena : Arena) (entry : Journal.Entry) :
    (arena.put entry).slots.length = if entry.1.index < arena.slots.length
      then arena.slots.length else arena.slots.length + 1 :=
  length_set_or_append arena.slots entry.1.index entry.2

namespace Journal

/-! ## The scan -/

theorem scanFrames_eq (index : Index) (bytes : List UInt8) :
    scanFrames index bytes = match front bytes with
      | .torn => .ok index
      | .damaged damage => .error (index.finish, damage)
      | .complete entry length =>
        match note index.offsets entry.1 index.finish with
        | .error damage => .error (index.finish, damage)
        | .ok offsets =>
          scanFrames ⟨offsets, index.finish + frameLength length⟩
            (bytes.drop (frameLength length)) := by
  rw [scanFrames]
  split
  · rename_i htorn
    exact htorn ▸ rfl
  · rename_i hdamaged
    exact hdamaged ▸ rfl
  · rename_i hwhole
    exact hwhole ▸ rfl

theorem scanFrames_torn {index : Index} {bytes : List UInt8} (h : front bytes = .torn) :
    scanFrames index bytes = .ok index := by
  rw [scanFrames_eq, h]

theorem scanFrames_damaged {index : Index} {bytes : List UInt8} {damage : Damage}
    (h : front bytes = .damaged damage) : scanFrames index bytes = .error (index.finish, damage) := by
  rw [scanFrames_eq, h]

theorem scanFrames_whole {index : Index} {bytes : List UInt8} {entry : Entry} {length : Nat}
    (h : Whole bytes entry length) :
    scanFrames index bytes = match note index.offsets entry.1 index.finish with
      | .error damage => .error (index.finish, damage)
      | .ok offsets =>
        scanFrames ⟨offsets, index.finish + frameLength length⟩ (bytes.drop (frameLength length)) := by
  rw [scanFrames_eq, front_of_whole h]

theorem note_of_le {offsets : List Nat} {record : Record} (h : record.index ≤ offsets.length)
    (offset : Nat) :
    note offsets record offset = .ok (if record.index < offsets.length
      then offsets.set record.index offset else offsets ++ [offset]) := by
  unfold note
  split
  · rfl
  · rw [if_pos (by omega)]

theorem scanFrames_append {index found : Index} {bytes : List UInt8}
    (h : scanFrames index bytes = .ok found)
    (hall : found.finish = index.finish + bytes.length) (more : List UInt8) :
    scanFrames index (bytes ++ more) = scanFrames found more := by
  fun_induction scanFrames index bytes generalizing found with
  | case1 index bytes htorn =>
    cases h
    have hnil : bytes = [] := List.length_eq_zero_iff.1 (by omega)
    rw [hnil, List.nil_append]
  | case2 => cases h
  | case3 => cases h
  | case4 index bytes entry length hwhole offsets hnote ih =>
    have hle := frameLength_le_of_front hwhole
    rw [scanFrames_whole ((whole_of_front hwhole).append more), hnote,
      List.drop_append_of_le_length hle]
    refine ih h ?_
    rw [hall, List.length_drop]
    show _ = index.finish + frameLength length + _
    omega

theorem scan_header_append (frames : List UInt8) :
    scan (header ++ frames) = scanFrames ⟨[], header.length⟩ frames := rfl

theorem eq_header_append_of_scan {content : List UInt8} {index : Index}
    (h : scan content = .ok index) :
    ∃ frames, content = header ++ frames ∧ scanFrames ⟨[], header.length⟩ frames = .ok index := by
  unfold scan at h
  split at h
  · cases h
  rename_i hmagic
  split at h
  · cases h
  rename_i found frames hdrop
  split at h
  · rename_i hversion
    refine ⟨frames, ?_, h⟩
    rw [Decidable.not_not] at hmagic
    rw [← List.take_append_drop magic.length content, hmagic, hdrop, hversion]
    rfl
  · cases h

theorem scan_append {content : List UInt8} {index : Index} (h : scan content = .ok index)
    (hall : index.finish = content.length) (more : List UInt8) :
    scan (content ++ more) = scanFrames index more := by
  obtain ⟨frames, rfl, hframes⟩ := eq_header_append_of_scan h
  rw [List.length_append] at hall
  rw [List.append_assoc, scan_header_append]
  exact scanFrames_append hframes hall more

/-! ## What the content holds -/

/-- The content of a log file holds what the arena holds, and `index` is what has to be known
about it: all of the content is whole frames, and the offset of every record leads to a frame
with the changes that the arena has for the record. -/
structure Holds (content : List UInt8) (index : Index) (arena : Arena) : Prop where
  scanned : scan content = .ok index
  whole : index.finish = content.length
  count : index.offsets.length = arena.slots.length
  stored : ∀ (i : Nat) (changes : List Change), arena.slots[i]? = some changes →
    ∃ (offset : Nat) (record : Record) (length : Nat), index.offsets[i]? = some offset ∧
      record.index = i ∧ Whole (content.drop offset) (record, changes) length

theorem holds_header : Holds header ⟨[], header.length⟩ .empty where
  scanned := (scan_header_append []).trans (scanFrames_torn front_nil)
  whole := rfl
  count := rfl
  stored i changes h := by cases h

theorem not_whole_nil {entry : Entry} {length : Nat} : ¬ Whole [] entry length := by
  rintro ⟨framed, rest, tail, h, _⟩
  cases h

/-- One more frame behind the content is one more entry in the arena. -/
theorem Holds.append {content frame : List UInt8} {index : Index} {arena : Arena} {entry : Entry}
    {length : Nat} (h : Holds content index arena) (hframe : Whole frame entry length)
    (hlength : frame.length = frameLength length) (hrecord : entry.1.index ≤ arena.slots.length) :
    Holds (content ++ frame)
      { offsets := if entry.1.index < index.offsets.length
          then index.offsets.set entry.1.index index.finish else index.offsets ++ [index.finish]
        finish := index.finish + frame.length }
      (arena.put entry) := by
  have hle : entry.1.index ≤ index.offsets.length := by rw [h.count]; exact hrecord
  refine ⟨?_, ?_, ?_, ?_⟩
  · rw [scan_append h.scanned h.whole, scanFrames_whole hframe, note_of_le hle, ← hlength,
      List.drop_length]
    exact scanFrames_torn front_nil
  · show index.finish + frame.length = _
    rw [h.whole, List.length_append]
  · rw [length_set_or_append, Arena.length_put, h.count]
  · intro i changes hi
    rw [Arena.getElem?_put hrecord] at hi
    rw [getElem?_set_or_append _ hle]
    split at hi
    · rename_i hsame
      cases hi
      refine ⟨index.finish, entry.1, length, if_pos hsame, hsame.symm, ?_⟩
      rw [h.whole, List.drop_left]
      exact hframe
    · rename_i hother
      obtain ⟨offset, record, length', hoffset, hindex, hwhole⟩ := h.stored i changes hi
      refine ⟨offset, record, length', (if_neg hother).trans hoffset, hindex, ?_⟩
      -- Behind the end of the content there is no frame to be found.
      have hin : offset ≤ content.length := by
        rcases Nat.lt_or_ge content.length offset with hlt | hge
        · rw [List.drop_of_length_le (by omega)] at hwhole
          exact absurd hwhole not_whole_nil
        · exact hge
      rw [List.drop_append_of_le_length hin]
      exact hwhole.append frame

theorem changesAt_of_whole {content : List UInt8} {offset length : Nat} {record : Record}
    {changes : List Change} (h : Whole (content.drop offset) (record, changes) length) :
    changesAt content offset record = .ok changes := by
  obtain ⟨framed, rest, tail, hframed, hrest, htail, hentry⟩ := h
  have hdrop : content.drop (offset + 4) = framed := by
    rw [← List.drop_drop]
    exact Word.drop_four_of_take? hframed
  unfold changesAt
  simp only [hdrop, hrest, htail, hentry, ne_eq, not_true_eq_false, if_false, if_true]

end Journal

end LessonHistory
