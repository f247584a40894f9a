-- What opening makes of any bytes that it finds. Either they start with a log and nothing but a
-- torn frame stands behind it, and then that log is kept, which is the longest one that the bytes
-- start with; or they are damaged, and stay as they are. What is kept can be read to the end, and
-- opening it again changes nothing.
import LessonHistory.Proofs.Store.InBounds
import LessonHistory.Proofs.Store.TornLog

namespace LessonHistory

namespace Journal

/-! ## Frames, and what may stand behind them -/

/-- Whole frames one after the other, with the entries that they hold. A payload may have an
entry in any form that can be read, with more bytes behind it. -/
inductive Framed : List Entry → List UInt8 → Prop where
  | nil : Framed [] []
  | cons {entry : Entry} {entries : List Entry} {frame frames : List UInt8} {length : Nat}
      (whole : Whole frame entry length) (exact : frame.length = frameLength length)
      (rest : Framed entries frames) : Framed (entry :: entries) (frame ++ frames)

/-- The start of a frame that is not there to its end: it is too short to have a length, or it
has a length with the right checksum that reaches past the end. -/
def Torn (bytes : List UInt8) : Prop :=
  bytes.length < 8 ∨ ∃ framed length rest,
    Word.take? bytes = some ((Checksum.crc32 (framed.take 4)).toNat, framed) ∧
    Word.take? framed = some (length, rest) ∧ rest.length < length + 4

theorem front_eq_torn_iff {bytes : List UInt8} : front bytes = .torn ↔ Torn bytes := by
  constructor
  · intro h
    by_cases hshort : bytes.length < 8
    · exact .inl hshort
    obtain ⟨lengthSum, hsum⟩ := Word.exists_take? (show 4 ≤ bytes.length by omega)
    obtain ⟨length, hlength⟩ := Word.exists_take?
      (show 4 ≤ (bytes.drop 4).length by rw [List.length_drop]; omega)
    unfold front at h
    simp only [hsum, hlength] at h
    split at h
    · cases h
    rename_i hright
    rw [Decidable.not_not] at hright
    refine .inr ⟨bytes.drop 4, length, (bytes.drop 4).drop 4, hright ▸ hsum, hlength, ?_⟩
    by_cases hpast : ((bytes.drop 4).drop 4).length < length + 4
    · exact hpast
    obtain ⟨payloadSum, hpayload⟩ := Word.exists_take?
      (show 4 ≤ (((bytes.drop 4).drop 4).drop length).length by
        rw [List.length_drop (l := (bytes.drop 4).drop 4)]; omega)
    simp only [hpayload] at h
    split at h
    · cases h
    · split at h <;> cases h
  · rintro (hshort | ⟨framed, length, rest, hframed, hrest, hpast⟩)
    · exact front_of_lt_eight hshort
    · have hnone : Word.take? (rest.drop length) = none :=
        Word.take?_eq_none (by rw [List.length_drop]; omega)
      unfold front
      simp only [hframed, hrest, hnone, ne_eq, not_true_eq_false, if_false]

/-- Frames with records in sequence behind a content are entries put into its arena. -/
theorem Framed.exists_holds {entries : List Entry} {frames : List UInt8}
    (h : Framed entries frames) {content : List UInt8} {index : Index} {before : List Entry}
    (hholds : Holds content index (arenaOf before)) (hsequence : InSequence (before ++ entries)) :
    ∃ found, Holds (content ++ frames) found (arenaOf (before ++ entries)) := by
  induction h generalizing content index before with
  | nil =>
    rw [List.append_nil, List.append_nil]
    exact ⟨index, hholds⟩
  | @cons entry entries frame frames length whole exact rest ih =>
    have hnext := hholds.append whole exact (hsequence.index_le rfl)
    rw [← arenaOf_concat] at hnext
    rw [List.append_cons] at hsequence
    rw [← List.append_assoc, List.append_cons before]
    exact ih hnext hsequence

/-- Frames behind which there is only a torn one go at least as far as any others. -/
theorem Framed.isPrefix {entries others : List Entry} {frames torn further : List UInt8}
    (h : Framed entries frames) (htorn : front torn = .torn) (hothers : Framed others further)
    (hstart : further <+: frames ++ torn) : others <+: entries ∧ further <+: frames := by
  induction hothers generalizing entries frames with
  | nil => exact ⟨List.nil_prefix, List.nil_prefix⟩
  | @cons other others frame' further length' whole' exact' rest' ih =>
    obtain ⟨more, hmore⟩ := hstart
    rw [List.append_assoc] at hmore
    have hfront' := front_of_whole (whole'.append (further ++ more))
    rw [hmore] at hfront'
    cases h with
    | nil =>
      rw [List.nil_append, htorn] at hfront'
      cases hfront'
    | @cons entry entries frame frames length whole exact rest =>
      rw [List.append_assoc] at hmore hfront'
      rw [front_of_whole (whole.append (frames ++ torn))] at hfront'
      cases hfront'
      obtain ⟨rfl, hrest⟩ := List.append_inj hmore (exact'.trans exact.symm)
      obtain ⟨hentries, hframes⟩ := ih rest ⟨more, hrest⟩
      exact ⟨List.cons_prefix_cons.2 ⟨rfl, hentries⟩, (List.prefix_append_right_inj _).2 hframes⟩

/-! ## The scan -/

theorem index_le_of_note {offsets next : List Nat} {record : Record} {offset : Nat}
    (h : note offsets record offset = .ok next) : record.index ≤ offsets.length := by
  unfold note at h
  split at h
  · omega
  · split at h
    · omega
    · cases h

/-- A scan without damage has found whole frames with records in sequence, and then a torn one. -/
theorem exists_of_scanFrames_ok {index found : Index} {bytes content : List UInt8}
    {before : List Entry} (h : scanFrames index bytes = .ok found)
    (hholds : Holds content index (arenaOf before)) (hbefore : InSequence before) :
    ∃ entries frames torn, bytes = frames ++ torn ∧ Framed entries frames ∧
      InSequence (before ++ entries) ∧ front torn = .torn ∧
      Holds (content ++ frames) found (arenaOf (before ++ entries)) := by
  fun_induction scanFrames index bytes generalizing content before with
  | case1 index bytes htorn =>
    cases h
    refine ⟨[], [], bytes, rfl, .nil, ?_, htorn, ?_⟩
    · rw [List.append_nil]
      exact hbefore
    · rw [List.append_nil, List.append_nil]
      exact hholds
  | case2 => cases h
  | case3 => cases h
  | case4 index bytes entry length hfront offsets hnote ih =>
    have hframe := (whole_of_front hfront).take
    have hexact : (bytes.take (frameLength length)).length = frameLength length := by
      rw [List.length_take, Nat.min_eq_left (frameLength_le_of_front hfront)]
    have hle := index_le_of_note hnote
    have hrecord : entry.1.index ≤ (arenaOf before).slots.length := by
      rw [← hholds.count]
      exact hle
    have hnext := hholds.append hframe hexact hrecord
    rw [note_of_le hle] at hnote
    cases hnote
    rw [hexact, ← arenaOf_concat] at hnext
    obtain ⟨entries, frames, torn, hbytes, hframed, hsequence, htorn, hall⟩ :=
      ih h hnext (hbefore.concat hrecord)
    refine ⟨entry :: entries, bytes.take (frameLength length) ++ frames, torn, ?_,
      .cons hframe hexact hframed, ?_, htorn, ?_⟩
    · rw [List.append_assoc, ← hbytes, List.take_append_drop]
    · rw [List.append_cons]
      exact hsequence
    · rw [← List.append_assoc, List.append_cons before]
      exact hall

/-! ## What is kept of a content -/

/-- What opening keeps of a content, and the entries in it: a part of a header becomes a header,
and of whole frames with records in sequence only what is torn behind them is cut off. -/
inductive Kept (content : List UInt8) : List Entry → List UInt8 → Prop where
  | header (part : content <+: header) (less : content ≠ header) : Kept content [] header
  | frames {entries : List Entry} {frames torn : List UInt8}
      (split : content = header ++ frames ++ torn) (framed : Framed entries frames)
      (sequence : InSequence entries) (rest : Torn torn) : Kept content entries (header ++ frames)

theorem Kept.inSequence {content kept : List UInt8} {entries : List Entry}
    (h : Kept content entries kept) : InSequence entries := by
  cases h with
  | header => exact .nil
  | frames _ _ sequence _ => exact sequence

/-- A content starts with no longer log than the one that is kept of it. -/
theorem Kept.length_le {content kept further : List UInt8} {entries others : List Entry}
    (h : Kept content entries kept) (hothers : Framed others further)
    (hstart : Journal.header ++ further <+: content) :
    (Journal.header ++ further).length ≤ kept.length := by
  cases h with
  | header part less => exact hstart.length_le.trans part.length_le
  | @frames entries frames torn split framed sequence rest =>
    rw [split, List.append_assoc, List.prefix_append_right_inj] at hstart
    rw [List.length_append, List.length_append]
    exact Nat.add_le_add_left
      (framed.isPrefix (front_eq_torn_iff.2 rest) hothers hstart).2.length_le _

theorem eq_header_of_isPrefix {rest : List UInt8} (h : header ++ rest <+: header) :
    header ++ rest = header := h.eq_of_length_le (List.prefix_append _ _).length_le

theorem Kept.unique {content kept kept' : List UInt8} {entries entries' : List Entry}
    (h : Kept content entries kept) (h' : Kept content entries' kept') :
    entries = entries' ∧ kept = kept' := by
  cases h with
  | header part less =>
    cases h' with
    | header => exact ⟨rfl, rfl⟩
    | @frames _ frames' torn' split' =>
      rw [split', List.append_assoc] at part less
      exact absurd (eq_header_of_isPrefix part) less
  | @frames entries frames torn split framed sequence rest =>
    cases h' with
    | header part less =>
      rw [split, List.append_assoc] at part less
      exact absurd (eq_header_of_isPrefix part) less
    | @frames entries' frames' torn' split' framed' sequence' rest' =>
      have hsame : frames ++ torn = frames' ++ torn' := by
        rw [split, List.append_assoc, List.append_assoc] at split'
        exact List.append_cancel_left split'
      obtain ⟨hentries, hframes⟩ :=
        framed'.isPrefix (front_eq_torn_iff.2 rest') framed ⟨torn, hsame⟩
      obtain ⟨hentries', hframes'⟩ :=
        framed.isPrefix (front_eq_torn_iff.2 rest) framed' ⟨torn', hsame.symm⟩
      exact ⟨hentries.eq_of_length_le hentries'.length_le,
        congrArg _ (hframes.eq_of_length_le hframes'.length_le)⟩

theorem holds_arenaOf_nil : Holds header ⟨[], header.length⟩ (arenaOf []) := holds_header

/-- A content can be had back just when there is something to keep of it. -/
theorem recover_cases (content : List UInt8) :
    (∃ problem, recover content = .error problem ∧ ∀ entries kept, ¬ Kept content entries kept) ∨
    ∃ index repair entries kept, recover content = .ok (index, repair) ∧
      Kept content entries kept ∧ Holds kept index (arenaOf entries) ∧
      ∀ limit : Option Nat, (∀ most ∈ limit, header.length ≤ most) →
        FileLog.repaired limit content index repair = (.ok (), kept) := by
  unfold recover
  by_cases hshort : content.length < header.length ∧ content.isPrefixOf header
  · rw [if_pos hshort]
    have hless : content ≠ header := by
      rintro rfl
      exact Nat.lt_irrefl _ hshort.1
    exact .inr ⟨_, _, [], header, rfl, .header (List.isPrefixOf_iff_prefix.1 hshort.2) hless,
      holds_header, fun limit hlimit => repaired_header hlimit content _⟩
  rw [if_neg hshort]
  cases hscan : scan content with
  | error problem =>
    refine .inl ⟨problem, rfl, ?_⟩
    intro entries kept hkept
    cases hkept with
    | header part less =>
      refine hshort ⟨?_, List.isPrefixOf_iff_prefix.2 part⟩
      exact Nat.lt_of_le_of_ne part.length_le fun hsame => less (part.eq_of_length hsame)
    | frames split framed sequence rest =>
      obtain ⟨found, hfound⟩ := framed.exists_holds holds_arenaOf_nil sequence
      rw [split, scan_append hfound.scanned hfound.whole,
        scanFrames_torn (front_eq_torn_iff.2 rest)] at hscan
      cases hscan
  | ok index =>
    obtain ⟨bytes, rfl, hbytes⟩ := eq_header_append_of_scan hscan
    obtain ⟨entries, frames, torn, rfl, hframed, hsequence, htorn, hholds⟩ :=
      exists_of_scanFrames_ok hbytes holds_arenaOf_nil .nil
    refine .inr ⟨index, _, entries, header ++ frames, rfl,
      .frames (List.append_assoc _ _ _).symm hframed hsequence (front_eq_torn_iff.1 htorn),
      hholds, ?_⟩
    intro limit _
    rw [← List.append_assoc]
    split
    · show (Except.ok (), (header ++ frames ++ torn).take index.finish) = _
      rw [hholds.whole, List.take_left]
    · rename_i hend
      rw [hholds.whole] at hend
      have hlength : (header ++ frames ++ torn).length = (header ++ frames).length + torn.length :=
        List.length_append
      have hnil : torn = [] := List.length_eq_zero_iff.1 (by omega)
      rw [hnil, List.append_nil]
      rfl

end Journal

namespace FileLog

theorem exists_kept_of_repaired {limit : Option Nat} {content mended : List UInt8}
    {index : Journal.Index} {repair : Journal.Repair}
    (hrecover : Journal.recover content = .ok (index, repair))
    (hrepaired : repaired limit content index repair = (.ok (), mended)) :
    ∃ entries, Journal.Kept content entries mended ∧
      Journal.Holds mended index (Journal.arenaOf entries) := by
  rcases Journal.recover_cases content with ⟨_, herror, -⟩ |
    ⟨_, _, entries, kept, hok, hkept, hholds, hmended⟩
  · rw [hrecover] at herror
    cases herror
  · rw [hrecover] at hok
    cases hok
    have hunlimited := hmended none fun _ hmost => absurd hmost (Option.not_mem_none _)
    have hsame : mended = kept := by
      cases repair with
      | header =>
        rw [eq_header_of_repaired hrepaired, eq_header_of_repaired hunlimited]
      | nothing =>
        cases hrepaired
        cases hunlimited
        rfl
      | tail =>
        cases hrepaired
        cases hunlimited
        rfl
    rw [hsame]
    exact ⟨entries, hkept, hholds⟩

/-- What can be kept of a content is in the file when the log is open. There is nothing to tell
where all of it can be kept. -/
theorem openPath_of_kept {volume : Volume} {path : String} {directory : Place} {name : String}
    {content kept : List UInt8} {entries : List Journal.Entry}
    (hleads : volume.Leads path directory name)
    (hcontent : volume.content? (volume.child directory name) = some content)
    (hlimit : ∀ most ∈ volume.sizeLimit, Journal.header.length ≤ most)
    (hkept : Journal.Kept content entries kept) :
    ∃ index notices, Journal.Holds kept index (Journal.arenaOf entries) ∧
      openPath volume path
        = ⟨.ok ⟨volume.put (volume.child directory name) (.file kept), path,
            .linked (volume.child directory name), index⟩,
          volume.put (volume.child directory name) (.file kept), notices⟩ ∧
      (kept = content → notices = []) := by
  rcases Journal.recover_cases content with ⟨_, -, hnone⟩ |
    ⟨index, repair, _, _, hrecover, hkept', hholds, hrepaired⟩
  · exact absurd hkept (hnone _ _)
  · obtain ⟨rfl, rfl⟩ := hkept.unique hkept'
    refine ⟨index, repairNotices path content index repair, hholds,
      openPath_of_repair hleads hcontent hrecover (hrepaired _ hlimit), ?_⟩
    rintro rfl
    rw [recover_of_holds hholds] at hrecover
    cases hrecover
    rfl

/-- Whatever bytes are at the path of a log, opening looks at none that are not there. It leaves
them as they are, if nothing of them can be kept, or keeps the longest log that they start with.
Of what is kept every record can be read, and opening it again finds nothing to be done. -/
theorem any_bytes_open_as_their_frames_or_stay {volume : Volume} {path : String}
    {content : List UInt8} (hlimit : ∀ most ∈ volume.sizeLimit, Journal.header.length ≤ most)
    (hread : volume.read path = .ok content) :
    Journal.scanAt? content = some (Journal.scan content) ∧
    ((∃ offset damage, openPath volume path = ⟨.error (.corrupt path offset damage), volume, []⟩ ∧
        ∀ entries kept, ¬ Journal.Kept content entries kept) ∨
      ∃ log notices entries kept, openPath volume path = ⟨.ok log, log.volume, notices⟩ ∧
        Journal.Kept content entries kept ∧
        (∀ others further, Journal.Framed others further → Journal.header ++ further <+: content →
          (Journal.header ++ further).length ≤ kept.length) ∧
        log.volume.read path = .ok kept ∧
        log.count = (entries.map Prod.fst).toFinset.card ∧
        (∀ record : Record, record.index < log.count → ∃ changes,
          entries.reverse.lookup record = some changes ∧ log.changes (some record) = .ok changes) ∧
        log.entries = (if log.count < 4294967296 then .ok (Journal.arenaOf entries).entries
          else .error .recordSpaceExhausted) ∧
        openPath log.volume path = ⟨.ok log, log.volume, []⟩) := by
  refine ⟨Journal.scanAt?_eq content, ?_⟩
  obtain ⟨directory, name, hleads, hcontent⟩ := Volume.read_eq_ok_iff.1 hread
  rcases Journal.recover_cases content with ⟨⟨offset, damage⟩, hrecover, hnone⟩ |
    ⟨index, repair, entries, kept, hrecover, hkept, hholds, hrepaired⟩
  · exact .inl ⟨offset, damage, openPath_of_damage hleads hcontent hrecover, hnone⟩
  have hroot := Volume.ne_root_of_content? hcontent
  have hfile : volume.get? (volume.child directory name) ≠ some .directory := by
    rw [Volume.content?_eq_some_iff.1 hcontent]
    exact nofun
  let log : FileLog := ⟨volume.put (volume.child directory name) (.file kept), path,
    .linked (volume.child directory name), index⟩
  have hleads' : log.volume.Leads path directory name := hleads.put hfile kept
  have hcontent' : log.volume.content? (log.volume.child directory name) = some kept :=
    Volume.content?_put hroot volume kept
  have hholds' : Journal.Holds log.content log.index (Journal.arenaOf entries) := by
    rw [content_put hroot volume kept path index]
    exact hholds
  have hsequence := hkept.inSequence
  refine .inr ⟨log, repairNotices path content index repair, entries, kept,
    openPath_of_repair hleads hcontent hrecover (hrepaired _ hlimit), hkept,
    fun others further hothers hstart => hkept.length_le hothers hstart,
    Volume.read_eq_ok_iff.2 ⟨directory, name, hleads', hcontent'⟩, ?_, ?_, ?_, ?_⟩
  · rw [← hsequence.length_slots]
    exact hholds.count
  · intro record hrecord
    have hslot : record.index < (Journal.arenaOf entries).slots.length :=
      hholds.count ▸ hrecord
    rw [changes_eq_of_holds hholds', ← hsequence.slot_eq, List.getElem?_eq_getElem hslot]
    refine ⟨_, rfl, ?_⟩
    unfold Arena.changes
    simp only [List.getElem?_eq_getElem hslot]
  · rw [entries_eq_of_holds hholds', show log.count = _ from hholds.count]
  · -- Writing the same content once more changes nothing.
    have hsame : log.volume.put (log.volume.child directory name) (.file kept) = log.volume :=
      volume.put_put _ _ _
    have hagain := openPath_of_repair hleads' hcontent' (recover_of_holds hholds) rfl
    rw [hsame] at hagain
    exact hagain

/-- The payload of the only frame has its record in two bytes and one byte too many behind the
changes, and three bytes of a next frame follow. -/
theorem a_padded_payload_is_kept_and_read :
    ∃ log notices,
      openPath { nodes := [(["log"], .file (Journal.header ++ (Journal.sumBytes (Word.bytes 4)
          ++ (Word.bytes 4 ++ ([0x80, 0, 0, 0xFF] ++ Journal.sumBytes [0x80, 0, 0, 0xFF])))
          ++ [1, 2, 3]))] } "log" = ⟨.ok log, log.volume, notices⟩ ∧
      log.volume.read "log" = .ok (Journal.header ++ (Journal.sumBytes (Word.bytes 4)
        ++ (Word.bytes 4 ++ ([0x80, 0, 0, 0xFF] ++ Journal.sumBytes [0x80, 0, 0, 0xFF])))) ∧
      log.changes (some .first) = .ok [] ∧ log.entries = .ok [(.first, [])] ∧
      openPath log.volume "log" = ⟨.ok log, log.volume, []⟩ := by
  have hpayload : Wire.decode Journal.Entry [0x80, 0, 0, 0xFF] = .ok (.first, []) := rfl
  have hwhole := Journal.whole_of_decode (by decide) hpayload
  have hframed := Journal.Framed.cons hwhole
    (by simp only [List.length_append, Journal.length_sumBytes, Word.length_bytes]; rfl) .nil
  rw [List.append_nil] at hframed
  have htorn : Journal.Torn [1, 2, 3] := .inl (by decide)
  have hkept := Journal.Kept.frames rfl hframed (.concat .nil (Nat.le_refl 0)) htorn
  obtain ⟨-, ⟨_, _, _, hnone⟩ | ⟨log, notices, entries, kept, hopen, hkept', -, hfile, hcount,
    hchanges, hentries, hagain⟩⟩ := @any_bytes_open_as_their_frames_or_stay
      { nodes := [(["log"], .file (Journal.header ++ (Journal.sumBytes (Word.bytes 4)
        ++ (Word.bytes 4 ++ ([0x80, 0, 0, 0xFF] ++ Journal.sumBytes [0x80, 0, 0, 0xFF])))
        ++ [1, 2, 3]))] } "log" _ (fun _ hmost => absurd hmost (Option.not_mem_none _)) rfl
  · exact absurd hkept (hnone _ _)
  · obtain ⟨rfl, rfl⟩ := hkept.unique hkept'
    have hfirst : log.count = 1 := hcount
    obtain ⟨changes, hlookup, hfound⟩ := hchanges .first (hfirst ▸ Nat.zero_lt_one)
    cases hlookup
    rw [hfirst] at hentries
    exact ⟨log, notices, hopen, hfile, hfound, hentries, hagain⟩

end FileLog

end LessonHistory
