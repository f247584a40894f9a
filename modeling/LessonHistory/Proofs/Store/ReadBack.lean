-- Reading one frame back from an open log, against scanning it. Both look at the same bytes, but
-- reading goes past the checksum of the length, so it takes just the frames that a scan would
-- take if that checksum were put right.
import LessonHistory.Proofs.Store.Damage

namespace LessonHistory

namespace Journal

/-! ## Two looks at one frame -/

/-- The bytes with the checksum in front that the length behind it should have. -/
def mended (bytes : List UInt8) : List UInt8 :=
  sumBytes ((bytes.drop 4).take 4) ++ bytes.drop 4

/-- What reading back a record gives for what stands at the front of the bytes from `offset` on,
where the length is known to be right. -/
def readOf (offset : Nat) (record : Record) : Front → Except ReadFault (List Change)
  | .torn => .error (.io .endOfFile)
  | .damaged (.codec cause) => .error (.codec cause)
  | .damaged _ => .error (.payloadChecksum offset)
  | .complete (found, changes) _ =>
    if found = record then .ok changes else .error (.otherRecord offset found)

theorem changesAt_eq_readOf (content : List UInt8) (offset : Nat) (record : Record) :
    changesAt content offset record
      = readOf offset record (front (mended (content.drop offset))) := by
  have hsum : Word.take? (mended (content.drop offset))
      = some ((Checksum.crc32 ((content.drop (offset + 4)).take 4)).toNat,
          content.drop (offset + 4)) := by
    unfold mended
    rw [List.drop_drop]
    exact Word.take?_bytes_append (toNat_crc32_lt _) _
  -- The first check of the scan has nothing to object, and from there on both look for the same.
  unfold changesAt front
  simp only [hsum, ne_eq, not_true_eq_false, if_false]
  cases Word.take? (content.drop (offset + 4)) with
  | none => rfl
  | some found =>
    obtain ⟨length, rest⟩ := found
    simp only
    cases Word.take? (rest.drop length) with
    | none => rfl
    | some sum =>
      simp only
      split
      · rfl
      · cases Wire.decode Entry (rest.take length) with
        | error error => rfl
        | ok entry => rfl

theorem changesAt_eq_ok_iff {content : List UInt8} {offset : Nat} {record : Record}
    {changes : List Change} :
    changesAt content offset record = .ok changes ↔
      ∃ length, front (mended (content.drop offset)) = .complete (record, changes) length := by
  rw [changesAt_eq_readOf]
  unfold readOf
  cases front (mended (content.drop offset)) with
  | torn => simp
  | damaged damage => cases damage <;> simp
  | complete entry length =>
    obtain ⟨found, stored⟩ := entry
    by_cases hsame : found = record
    · simp [hsame]
    · simp [hsame]

/-- A scan takes a frame just when it would take it with its length checksum put right, and that
checksum is right. -/
theorem front_eq_complete_iff {bytes : List UInt8} {entry : Entry} {length : Nat} :
    front bytes = .complete entry length ↔
      front (mended bytes) = .complete entry length ∧ mended bytes = bytes := by
  constructor
  · intro h
    obtain ⟨framed, _, _, hframed, -⟩ := whole_of_front h
    have hmended : mended bytes = bytes := by
      unfold mended
      rw [Word.drop_four_of_take? hframed]
      exact (Word.eq_bytes_append_of_take? hframed).2.symm
    rw [hmended]
    exact ⟨h, rfl⟩
  · rintro ⟨h, hmended⟩
    rwa [hmended] at h

end Journal

namespace FileLog

/-- A record is read back from the frame that is noted for it. -/
theorem changes_of_noted {log : FileLog} {record : Record} {offset : Nat}
    (h : log.index.offsets[record.index]? = some offset) :
    log.changes (some record)
      = (Journal.changesAt log.content offset record).mapError (.read record) := by
  show log.changesOf record = _
  unfold changesOf
  simp only [h]
  cases Journal.changesAt log.content offset record with
  | error cause => rfl
  | ok changes => rfl

/-- Whatever bytes the file of a log has been given, changes are read back just when the frame
noted for the record would pass the scan with its length checksum put right; so what is read
passes the scan just when that checksum is right. All else is a failure to read the record. -/
theorem a_read_makes_every_check_but_that_of_the_length {log : FileLog} {record : Record}
    (h : record.index < log.count) :
    ∃ offset, log.index.offsets[record.index]? = some offset ∧
      (∀ changes, log.changes (some record) = .ok changes ↔
        ∃ length, Journal.front (Journal.mended (log.content.drop offset))
          = .complete (record, changes) length) ∧
      (∀ changes, (∃ length, Journal.front (log.content.drop offset)
          = .complete (record, changes) length) ↔
        log.changes (some record) = .ok changes ∧
          Journal.mended (log.content.drop offset) = log.content.drop offset) ∧
      ((∃ changes, log.changes (some record) = .ok changes) ∨
        ∃ cause, log.changes (some record) = .error (.read record cause)) := by
  obtain ⟨offset, hoffset⟩ : ∃ offset, log.index.offsets[record.index]? = some offset :=
    ⟨_, List.getElem?_eq_getElem h⟩
  have hok (changes : List Change) : log.changes (some record) = .ok changes ↔
      ∃ length, Journal.front (Journal.mended (log.content.drop offset))
        = .complete (record, changes) length := by
    rw [changes_of_noted hoffset, ← Journal.changesAt_eq_ok_iff]
    cases Journal.changesAt log.content offset record with
    | error cause => simp [Except.mapError]
    | ok stored => simp [Except.mapError]
  refine ⟨offset, hoffset, hok, ?_, ?_⟩
  · intro changes
    rw [hok, ← exists_and_right]
    exact exists_congr fun length => Journal.front_eq_complete_iff
  · rw [changes_of_noted hoffset]
    cases Journal.changesAt log.content offset record with
    | error cause => exact .inr ⟨cause, rfl⟩
    | ok stored => exact .inl ⟨stored, rfl⟩

/-- A frame with a zero in place of its length checksum is read back, and no scan takes it. -/
theorem a_frame_without_its_length_checksum_is_read :
    FileLog.changes ⟨{ nodes := [(["log"], .file (Journal.header
        ++ ([0, 0, 0, 0] ++ (Journal.frameBytes (.first, [])).drop 4)))] }, "log",
        .linked ["log"], ⟨[5], 19⟩⟩ (some .first) = .ok [] ∧
      ∀ length, Journal.front ([0, 0, 0, 0] ++ (Journal.frameBytes (.first, [])).drop 4)
        ≠ .complete (.first, []) length := by
  obtain ⟨offset, hoffset, hok, hscan, -⟩ :=
    @a_read_makes_every_check_but_that_of_the_length ⟨{ nodes := [(["log"], .file (Journal.header
      ++ ([0, 0, 0, 0] ++ (Journal.frameBytes (.first, [])).drop 4)))] }, "log",
      .linked ["log"], ⟨[5], 19⟩⟩ .first (by decide)
  cases hoffset
  have hmended : Journal.mended ([0, 0, 0, 0] ++ (Journal.frameBytes (.first, [])).drop 4)
      = Journal.frameBytes (.first, []) := by decide +kernel
  constructor
  · have hfits : Journal.Fits (.first, []) := by decide
    have hfront := Journal.front_of_whole (Journal.whole_frameBytes hfits)
    rw [← hmended] at hfront
    exact (hok []).2 ⟨_, hfront⟩
  · intro length hfront
    obtain ⟨-, hright⟩ := (hscan []).1 ⟨length, hfront⟩
    have hsame := hmended.symm.trans hright
    revert hsame
    decide +kernel

/-- After another byte was put into the length checksum of its only frame, an open log still
reads the frame back, while opening the file reports the damage. -/
theorem a_changed_length_checksum_is_not_noticed :
    ∃ log next, (openPath { nodes := [] } "log").result = .ok log ∧
      log.update none [.addFile "a" "x"] = (.ok .first, next) ∧
      (next.withContent (next.content.set 5 0)).changes (some .first)
        = .ok [.addFile "a" "x"] ∧
      (openPath (next.withContent (next.content.set 5 0)).volume "log").result
        = .error (.corrupt "log" 5 .lengthChecksum) := by
  refine ⟨⟨{ nodes := [(["log"], .file Journal.header)] }, "log", .linked ["log"], ⟨[], 5⟩⟩,
    ⟨{ nodes := [(["log"], .file (Journal.logOf [(.first, [.addFile "a" "x"])]))] }, "log",
      .linked ["log"], ⟨[5], 24⟩⟩, rfl, ?_, ?_, ?_⟩
  · decide +kernel
  · decide +kernel
  · decide +kernel

end FileLog

end LessonHistory
