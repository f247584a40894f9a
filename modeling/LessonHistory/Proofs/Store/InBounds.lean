-- The scan of a log by positions in the content, as a program makes it that has the content in
-- one piece. It asks for every byte by its position, and has no answer where it asks for one that
-- is not there. It always has an answer, and the answer is that of the scan.
import LessonHistory.Proofs.Store.Scan

namespace LessonHistory

namespace Journal

/-! ## The pure model -/

/-- The bytes from `start` up to `stop`, if all of them are there. -/
def slice? (content : List UInt8) (start stop : Nat) : Option (List UInt8) :=
  if start ≤ stop ∧ stop ≤ content.length then some ((content.drop start).take (stop - start))
  else none

/-- The number in the four bytes at a position. -/
def wordAt? (content : List UInt8) (position : Nat) : Option Nat := do
  let bytes ← slice? content position (position + 4)
  let (number, _) ← Word.take? bytes
  pure number

/-- Looks at the frame at a position. -/
def frontAt? (content : List UInt8) (start : Nat) : Option Front :=
  if content.length < start + 8 then some .torn
  else do
    let lengthSum ← wordAt? content start
    let lengthBytes ← slice? content (start + 4) (start + 8)
    if (Checksum.crc32 lengthBytes).toNat ≠ lengthSum then pure (.damaged .lengthChecksum)
    else do
      let length ← wordAt? content (start + 4)
      let stop := start + 8 + length
      if content.length < stop + 4 then pure .torn
      else do
        let payload ← slice? content (start + 8) stop
        let payloadSum ← wordAt? content stop
        if (Checksum.crc32 payload).toNat ≠ payloadSum then pure (.damaged .payloadChecksum)
        else
          match Wire.decode Entry payload with
          | .error error => pure (.damaged (.codec (.serialization error)))
          | .ok entry => pure (.complete entry length)

/-- Puts an offset at a place of the offsets that is there. -/
def setAt? (offsets : List Nat) (place offset : Nat) : Option (List Nat) :=
  if place < offsets.length then some (offsets.set place offset) else none

/-- The offsets of the last frames of the records, with one more frame noted. -/
def noteAt? (offsets : List Nat) (record : Record) (offset : Nat) :
    Option (Except Damage (List Nat)) :=
  if record.index < offsets.length then (setAt? offsets record.index offset).map .ok
  else if record.index = offsets.length then some (.ok (offsets ++ [offset]))
  else some (.error (.outOfSequence record))

/-- Notes the frames from the end of the last one on. -/
def scanFramesAt? (content : List UInt8) (index : Index) :
    Option (Except (Nat × Damage) Index) :=
  match frontAt? content index.finish with
  | none => none
  | some .torn => some (.ok index)
  | some (.damaged damage) => some (.error (index.finish, damage))
  | some (.complete entry length) =>
    match noteAt? index.offsets entry.1 index.finish with
    | none => none
    | some (.error damage) => some (.error (index.finish, damage))
    | some (.ok offsets) =>
      if _h : index.finish + frameLength length ≤ content.length then
        scanFramesAt? content ⟨offsets, index.finish + frameLength length⟩
      else none
termination_by content.length - index.finish
decreasing_by
  simp only [frameLength] at *
  omega

/-- Scans the content of a log file by positions. -/
def scanAt? (content : List UInt8) : Option (Except (Nat × Damage) Index) :=
  if content.length < magic.length then some (.error (0, .headerMissing))
  else do
    let start ← slice? content 0 magic.length
    if start ≠ magic then pure (.error (0, .headerMissing))
    else
      match content[magic.length]? with
      | none => pure (.error (magic.length, .versionMissing))
      | some found =>
        if found = version then scanFramesAt? content ⟨[], header.length⟩
        else pure (.error (magic.length, .versionUnsupported found))

/-! ## Bytes at a position -/

theorem slice?_of_le {content : List UInt8} {start stop : Nat} (hstart : start ≤ stop)
    (hstop : stop ≤ content.length) :
    slice? content start stop = some ((content.drop start).take (stop - start)) :=
  if_pos ⟨hstart, hstop⟩

theorem wordAt?_eq {content : List UInt8} {position : Nat} {number : Nat} {rest : List UInt8}
    (h : Word.take? (content.drop position) = some (number, rest)) :
    wordAt? content position = some number := by
  have hlength := length_of_take? h
  rw [List.length_drop] at hlength
  unfold wordAt?
  rw [slice?_of_le (by omega) (by omega), Nat.add_sub_cancel_left]
  have htake : Word.take? ((content.drop position).take 4) = some (number, []) :=
    Word.take?_take h 0
  simp only [Option.bind_eq_bind, Option.bind_some, htake]
  rfl

theorem exists_take?_drop {content : List UInt8} {position : Nat}
    (h : position + 4 ≤ content.length) :
    ∃ number, Word.take? (content.drop position) = some (number, content.drop (position + 4)) := by
  have hlong : 4 ≤ (content.drop position).length := by rw [List.length_drop]; omega
  obtain ⟨number, hnumber⟩ := Word.exists_take? hlong
  rw [List.drop_drop] at hnumber
  exact ⟨number, hnumber⟩

/-! ## The specs -/

theorem frontAt?_eq {content : List UInt8} {start : Nat} :
    frontAt? content start = some (front (content.drop start)) := by
  unfold frontAt?
  split
  · rename_i hshort
    rw [front_of_lt_eight (by rw [List.length_drop]; omega)]
  rename_i hhead
  obtain ⟨lengthSum, hsum⟩ := exists_take?_drop (show start + 4 ≤ content.length by omega)
  obtain ⟨length, hlength⟩ := exists_take?_drop (show start + 4 + 4 ≤ content.length by omega)
  have hfour : slice? content (start + 4) (start + 8) = some ((content.drop (start + 4)).take 4) := by
    rw [slice?_of_le (by omega) (by omega), show start + 8 - (start + 4) = 4 by omega]
  unfold front
  simp only [wordAt?_eq hsum, wordAt?_eq hlength, hsum, hlength, hfour, Option.bind_eq_bind,
    Option.bind_some]
  split
  · rfl
  rw [List.drop_drop]
  split
  · -- The length reaches past the end.
    rename_i hshort
    rw [Word.take?_eq_none (by rw [List.length_drop]; omega)]
    rfl
  rename_i hpayload
  obtain ⟨payloadSum, htail⟩ :=
    exists_take?_drop (show start + 4 + 4 + length + 4 ≤ content.length by omega)
  have hslice : slice? content (start + 8) (start + 8 + length)
      = some ((content.drop (start + 4 + 4)).take length) := by
    rw [slice?_of_le (by omega) (by omega), Nat.add_sub_cancel_left]
  have hword : wordAt? content (start + 8 + length) = some payloadSum := wordAt?_eq htail
  simp only [htail, hslice, hword, Option.bind_some]
  split
  · rfl
  · cases Wire.decode Entry ((content.drop (start + 4 + 4)).take length) <;> rfl

theorem noteAt?_eq (offsets : List Nat) (record : Record) (offset : Nat) :
    noteAt? offsets record offset = some (note offsets record offset) := by
  unfold noteAt? note setAt?
  split
  · rfl
  · split <;> rfl

/-- From an end of frames that is there, scanning by positions does what the scan does with the
bytes behind it. -/
theorem scanFramesAt?_eq {content : List UInt8} {index : Index}
    (h : index.finish ≤ content.length) :
    scanFramesAt? content index = some (scanFrames index (content.drop index.finish)) := by
  fun_induction scanFramesAt? content index with
  | case1 index hfront =>
    rw [frontAt?_eq] at hfront
    cases hfront
  | case2 index hfront =>
    rw [frontAt?_eq] at hfront
    rw [scanFrames_torn (Option.some.inj hfront)]
  | case3 index damage hfront =>
    rw [frontAt?_eq] at hfront
    rw [scanFrames_damaged (Option.some.inj hfront)]
  | case4 index entry length hfront hnote =>
    rw [noteAt?_eq] at hnote
    cases hnote
  | case5 index entry length hfront damage hnote =>
    rw [frontAt?_eq] at hfront
    rw [noteAt?_eq] at hnote
    rw [scanFrames_whole (whole_of_front (Option.some.inj hfront)), Option.some.inj hnote]
  | case6 index entry length hfront offsets hnote hinside ih =>
    rw [frontAt?_eq] at hfront
    rw [noteAt?_eq] at hnote
    rw [ih hinside, scanFrames_whole (whole_of_front (Option.some.inj hfront)),
      Option.some.inj hnote, List.drop_drop]
  | case7 index entry length hfront offsets hnote houtside =>
    rw [frontAt?_eq] at hfront
    have hle := frameLength_le_of_front (Option.some.inj hfront)
    rw [List.length_drop] at hle
    omega

/-- Whatever the content is, scanning it asks for nothing that is not there. -/
theorem scanAt?_eq (content : List UInt8) : scanAt? content = some (scan content) := by
  unfold scanAt? scan
  split
  · rename_i hshort
    have hother : content.take magic.length ≠ magic := by
      intro hsame
      have hlength := congrArg List.length hsame
      rw [List.length_take] at hlength
      omega
    rw [if_pos hother]
  rename_i hlong
  have hslice : slice? content 0 magic.length = some (content.take magic.length) := by
    rw [slice?_of_le (by omega) (by omega), List.drop_zero, Nat.sub_zero]
  simp only [hslice, Option.bind_eq_bind, Option.bind_some]
  split
  · rfl
  have hget : content[magic.length]? = (content.drop magic.length)[0]? := by
    rw [List.getElem?_drop, Nat.add_zero]
  rw [hget]
  cases hdrop : content.drop magic.length with
  | nil => rfl
  | cons found frames =>
    simp only [List.getElem?_cons_zero]
    split
    · have hlength := congrArg List.length hdrop
      rw [List.length_drop, List.length_cons] at hlength
      have hframes : content.drop header.length = frames := by
        rw [show header.length = magic.length + 1 from rfl, ← List.drop_drop, hdrop]
        rfl
      rw [scanFramesAt?_eq, hframes]
      show header.length ≤ content.length
      have hheader : header.length = magic.length + 1 := rfl
      omega
    · rfl

end Journal

end LessonHistory
