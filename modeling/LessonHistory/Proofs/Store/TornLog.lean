-- A log file that was cut off anywhere. Opening it gives back what the frames hold that lie
-- wholly inside what is left, cuts off the part of a frame that may stand behind them, and says
-- so. The log then is a good one: it goes on as an arena with those entries would.
import LessonHistory.Proofs.Store.Refinement
import LessonHistory.Proofs.Store.Sequence

namespace LessonHistory

namespace Journal

/-! ## What appends write -/

/-- The log with one frame for each entry. -/
def logOf (entries : List Entry) : List UInt8 := header ++ entries.flatMap frameBytes

/-- The entries that were appended to a new log, and the content that this gave the file. -/
inductive Written : List Entry → List UInt8 → Prop where
  | fresh : Written [] header
  | append {entries : List Entry} {content bytes : List UInt8} {record : Option Record}
      {given : Record} {changes : List Change} (before : Written entries content)
      (claimed : Record.claim (arenaOf entries).slots.length record = .ok given)
      (framed : frame (given, changes) = .ok bytes) :
      Written (entries ++ [(given, changes)]) (content ++ bytes)

theorem logOf_concat (entries : List Entry) (entry : Entry) :
    logOf (entries ++ [entry]) = logOf entries ++ frameBytes entry := by
  unfold logOf
  simp

theorem InSequence.fit {entries : List Entry} (h : InSequence entries)
    (hfits : ∀ entry ∈ entries, Fits entry) (entry : Entry)
    (hentry : (arenaOf entries).slots[entry.1.index]? = some entry.2) : Fits entry := by
  rw [h.slot_eq] at hentry
  exact hfits entry (List.mem_reverse.1 (Volume.mem_of_lookup_eq_some hentry))

namespace Written

variable {entries : List Entry} {content : List UInt8}

theorem content_eq (h : Written entries content) : content = logOf entries := by
  induction h with
  | fresh => rfl
  | append _ _ framed ih =>
    have hfits := fits_of_frame_eq_ok framed
    rw [frame_eq_ok hfits] at framed
    cases framed
    rw [logOf_concat, ih]

theorem take (h : Written entries content) {front back : List Entry}
    (hentries : entries = front ++ back) : Written front (logOf front) := by
  induction h generalizing back with
  | fresh =>
    obtain ⟨rfl, rfl⟩ := List.nil_eq_append_iff.1 hentries
    exact .fresh
  | append before claimed framed ih =>
    rcases List.eq_nil_or_concat back with rfl | ⟨back, last, rfl⟩
    · rw [List.append_nil] at hentries
      have hall := before.append claimed framed
      rw [hentries] at hall
      rw [← hall.content_eq]
      exact hall
    · rw [List.concat_eq_append, ← List.append_assoc] at hentries
      exact ih (List.append_inj' hentries rfl).1

theorem fits (h : Written entries content) : ∀ entry ∈ entries, Fits entry := by
  induction h with
  | fresh => simp
  | append _ _ framed ih =>
    intro entry hentry
    rcases List.mem_append.1 hentry with hentry | hentry
    · exact ih entry hentry
    · obtain rfl := List.mem_singleton.1 hentry
      exact fits_of_frame_eq_ok framed

/-! ## What the entries amount to -/

theorem inSequence (h : Written entries content) : InSequence entries := by
  induction h with
  | fresh => exact .nil
  | append _ claimed _ ih => exact ih.concat (Record.index_le_of_claim claimed)

theorem slot_eq (h : Written entries content) (record : Record) :
    (arenaOf entries).slots[record.index]? = entries.reverse.lookup record :=
  h.inSequence.slot_eq record

theorem length_slots (h : Written entries content) :
    (arenaOf entries).slots.length = (entries.map Prod.fst).toFinset.card :=
  h.inSequence.length_slots

theorem fit (h : Written entries content) (entry : Entry)
    (hentry : (arenaOf entries).slots[entry.1.index]? = some entry.2) : Fits entry :=
  h.inSequence.fit h.fits entry hentry

theorem holds (h : Written entries content) :
    ∃ index, Holds content index (arenaOf entries) := by
  induction h with
  | fresh => exact ⟨_, holds_header⟩
  | append before claimed framed ih =>
    obtain ⟨index, hholds⟩ := ih
    have hfits := fits_of_frame_eq_ok framed
    rw [frame_eq_ok hfits] at framed
    cases framed
    rw [arenaOf_concat]
    exact ⟨_, hholds.append_frameBytes hfits (Record.index_le_of_claim claimed)⟩

end Written

/-! ## The frames inside a part of the log -/

/-- The entries whose frames lie wholly inside the first `room` bytes behind the header. -/
def framesWithin (room : Nat) : List Entry → List Entry
  | [] => []
  | entry :: rest =>
    if (frameBytes entry).length ≤ room then
      entry :: framesWithin (room - (frameBytes entry).length) rest
    else []

theorem frameBytes_length_pos (entry : Entry) : 0 < (frameBytes entry).length := by
  rw [length_frameBytes]
  unfold frameLength
  omega

@[simp] theorem framesWithin_zero (entries : List Entry) : framesWithin 0 entries = [] := by
  cases entries with
  | nil => rfl
  | cons entry rest =>
    have hpos := frameBytes_length_pos entry
    exact if_neg (by omega)

theorem framesWithin_append (front back : List Entry) :
    framesWithin (front.flatMap frameBytes).length (front ++ back) = front := by
  induction front with
  | nil => exact framesWithin_zero back
  | cons entry rest ih =>
    rw [List.flatMap_cons, List.length_append, List.cons_append, framesWithin,
      if_pos (Nat.le_add_right _ _), Nat.add_sub_cancel_left, ih]

/-- What the first bytes behind the header are: whole frames, and then a part of the next. -/
theorem exists_take_flatMap (room : Nat) (entries : List Entry) :
    ∃ rest torn, entries = framesWithin room entries ++ rest ∧
      (entries.flatMap frameBytes).take room
        = (framesWithin room entries).flatMap frameBytes ++ torn ∧
      (torn = [] ∨ ∃ entry ∈ entries, ∃ m < (frameBytes entry).length,
        torn = (frameBytes entry).take m) := by
  induction entries generalizing room with
  | nil => exact ⟨[], [], rfl, List.take_nil, .inl rfl⟩
  | cons entry rest ih =>
    rw [framesWithin, List.flatMap_cons]
    split
    · rename_i hle
      obtain ⟨back, torn, hentries, htake, htorn⟩ := ih (room - (frameBytes entry).length)
      refine ⟨back, torn, ?_, ?_, ?_⟩
      · rw [List.cons_append, ← hentries]
      · rw [List.take_append, List.take_of_length_le hle, htake, List.flatMap_cons,
          List.append_assoc]
      · rcases htorn with htorn | ⟨other, hother, m, hm, htorn⟩
        · exact .inl htorn
        · exact .inr ⟨other, List.mem_cons_of_mem _ hother, m, hm, htorn⟩
    · rename_i hgt
      have hlt : room < (frameBytes entry).length := by omega
      refine ⟨entry :: rest, (frameBytes entry).take room, rfl, ?_, ?_⟩
      · rw [List.take_append_of_le_length (Nat.le_of_lt hlt)]
        rfl
      · exact .inr ⟨entry, List.mem_cons_self, room, hlt, rfl⟩

/-! ## What can be had from a part of the log -/

theorem recover_take_of_lt {entries : List Entry} {n : Nat} (hn : n < header.length) :
    recover ((logOf entries).take n) = .ok (⟨[], header.length⟩, .header) := by
  have htake : (logOf entries).take n = header.take n :=
    List.take_append_of_le_length (Nat.le_of_lt hn)
  unfold recover
  rw [htake, if_pos]
  refine ⟨?_, List.isPrefixOf_iff_prefix.2 (List.take_prefix n header)⟩
  rw [List.length_take]
  omega

/-- What follows the last whole frame is no frame, and the scan stops there. -/
theorem Written.scan_append_torn {entries : List Entry} {content torn : List UInt8}
    (h : Written entries content) (htorn : front torn = .torn) :
    ∃ index, Holds content index (arenaOf entries) ∧ scan (content ++ torn) = .ok index := by
  obtain ⟨index, hholds⟩ := h.holds
  refine ⟨index, hholds, ?_⟩
  rw [scan_append hholds.scanned hholds.whole, scanFrames_torn htorn]

theorem Written.recover_take {entries : List Entry} {content : List UInt8}
    (h : Written entries content) {n : Nat} (hn : header.length ≤ n) :
    ∃ index torn rest, entries = framesWithin (n - header.length) entries ++ rest ∧
      content.take n = logOf (framesWithin (n - header.length) entries) ++ torn ∧
        Holds (logOf (framesWithin (n - header.length) entries)) index
          (arenaOf (framesWithin (n - header.length) entries)) ∧
        recover (content.take n) = .ok (index, if torn = [] then .nothing else .tail) := by
  obtain ⟨rest, torn, hentries, htake, htorn⟩ := exists_take_flatMap (n - header.length) entries
  have hcut : content.take n = logOf (framesWithin (n - header.length) entries) ++ torn := by
    rw [h.content_eq]
    unfold logOf
    rw [List.take_append, List.take_of_length_le hn, htake, List.append_assoc]
  have hfront : front torn = .torn := by
    rcases htorn with rfl | ⟨entry, hentry, m, hm, rfl⟩
    · rfl
    · exact front_take_frameBytes (h.fits entry hentry) hm
  obtain ⟨index, hholds, hscan⟩ := (h.take hentries).scan_append_torn hfront
  refine ⟨index, torn, rest, hentries, hcut, hholds, ?_⟩
  unfold recover
  rw [hcut, if_neg, hscan]
  · have hshort : index.finish
        < (logOf (framesWithin (n - header.length) entries) ++ torn).length ↔ torn ≠ [] := by
      rw [hholds.whole, List.length_append, ← List.length_pos_iff]
      omega
    simp only
    by_cases hnil : torn = []
    · rw [if_neg (fun hlt => hshort.1 hlt hnil), if_pos hnil]
    · rw [if_pos (hshort.2 hnil), if_neg hnil]
  · unfold logOf
    rw [List.length_append, List.length_append]
    omega

theorem repaired_header {limit : Option Nat} (hlimit : ∀ most ∈ limit, header.length ≤ most)
    (content : List UInt8) (index : Index) :
    FileLog.repaired limit content index .header = (.ok (), header) := by
  show Content.write limit ([] : List UInt8).length header [] = _
  rw [Content.write_length_of_le, List.nil_append]
  intro most hmost
  rw [List.length_nil, Nat.zero_add]
  exact hlimit most hmost

/-- Whatever part of a log is left, it can be mended into the log of the entries whose frames lie
wholly inside, and a warning is due exactly if it is not such a log already. -/
theorem Written.exists_recovery {entries : List Entry} {content : List UInt8}
    (h : Written entries content) {n : Nat} (hn : n ≤ content.length) {limit : Option Nat}
    (hlimit : ∀ most ∈ limit, header.length ≤ most) (path : String) :
    ∃ index repair, recover (content.take n) = .ok (index, repair) ∧
      FileLog.repaired limit (content.take n) index repair
        = (.ok (), logOf (framesWithin (n - header.length) entries)) ∧
      Holds (logOf (framesWithin (n - header.length) entries)) index
        (arenaOf (framesWithin (n - header.length) entries)) ∧
      ((∃ notice ∈ FileLog.repairNotices path (content.take n) index repair,
          notice.severity = .warning) ↔
        0 < n ∧ ∀ front back, entries = front ++ back → n ≠ (logOf front).length) := by
  have hlength : (content.take n).length = n := by
    rw [List.length_take]
    omega
  have hheader : ∀ front, header.length ≤ (logOf front).length := by
    intro front
    unfold logOf
    rw [List.length_append]
    omega
  rcases Nat.lt_or_ge n header.length with hlt | hge
  · have hkept : framesWithin (n - header.length) entries = [] := by
      rw [Nat.sub_eq_zero_of_le (Nat.le_of_lt hlt), framesWithin_zero]
    rw [hkept]
    refine ⟨_, _, h.content_eq ▸ recover_take_of_lt hlt, repaired_header hlimit _ _, holds_header, ?_⟩
    have hnone : content.take n = [] ↔ n = 0 := by
      rw [← List.length_eq_zero_iff, hlength]
    constructor
    · rintro ⟨notice, hnotice, -⟩
      constructor
      · apply Nat.pos_of_ne_zero
        intro hzero
        rw [FileLog.repairNotices, if_pos (hnone.2 hzero)] at hnotice
        cases hnotice
      · intro front back _
        have := hheader front
        omega
    · rintro ⟨hpos, -⟩
      rw [FileLog.repairNotices, if_neg (fun hnil => by have := hnone.1 hnil; omega)]
      exact ⟨_, List.mem_singleton_self _, rfl⟩
  · obtain ⟨index, torn, rest, hentries, hcut, hholds, hrecover⟩ := h.recover_take hge
    have htake : (content.take n).take index.finish
        = logOf (framesWithin (n - header.length) entries) := by
      rw [hholds.whole, hcut, List.take_left]
    by_cases hnil : torn = []
    · rw [if_pos hnil] at hrecover
      rw [hnil, List.append_nil] at hcut
      refine ⟨index, .nothing, hrecover, ?_, hholds, ?_⟩
      · rw [hcut]
        rfl
      · constructor
        · rintro ⟨notice, hnotice, -⟩
          cases hnotice
        · rintro ⟨-, hother⟩
          have hsame := hother _ _ hentries
          rw [← hcut, hlength] at hsame
          exact absurd rfl hsame
    · rw [if_neg hnil] at hrecover
      refine ⟨index, .tail, hrecover, ?_, hholds, ?_⟩
      · rw [← htake]
        rfl
      · constructor
        · rintro -
          refine ⟨Nat.lt_of_lt_of_le (by decide) hge, fun front back hfront hsame => hnil ?_⟩
          -- A cut at the end of a frame leaves exactly the frames before it.
          have hkept : framesWithin (n - header.length) entries = front := by
            rw [hsame, hfront]
            unfold logOf
            rw [List.length_append, Nat.add_sub_cancel_left, framesWithin_append]
          have hlengths := congrArg List.length hcut
          rw [hlength, hkept, List.length_append, ← hsame] at hlengths
          exact List.length_eq_zero_iff.1 (by omega)
        · rintro -
          exact ⟨_, List.mem_singleton_self _, rfl⟩

end Journal

namespace FileLog

/-! ## What updates leave in the file -/

/-- What updates that all succeed make of a log, and the entries that they store. -/
inductive Updated (first : FileLog) : List Journal.Entry → FileLog → Prop where
  | refl : Updated first [] first
  | update {entries : List Journal.Entry} {log next : FileLog} {record : Option Record}
      {given : Record} {changes : List Change} (before : Updated first entries log)
      (updated : log.update record changes = (.ok given, next)) :
      Updated first (entries ++ [(given, changes)]) next

theorem Updated.trans {first middle last : FileLog} {front back : List Journal.Entry}
    (h : first.Updated front middle) (h' : middle.Updated back last) :
    first.Updated (front ++ back) last := by
  induction h' with
  | refl =>
    rw [List.append_nil]
    exact h
  | update _ updated ih =>
    rw [← List.append_assoc]
    exact ih.update updated

theorem Mirrors.written_update {log next : FileLog} {directory : Place} {name : String}
    {entries : List Journal.Entry} {record : Option Record} {given : Record}
    {changes : List Change} (h : log.Mirrors directory name (Journal.arenaOf entries))
    (hwritten : Journal.Written entries log.content)
    (hupdate : log.update record changes = (.ok given, next)) :
    next.Mirrors directory name (Journal.arenaOf (entries ++ [(given, changes)])) ∧
      Journal.Written (entries ++ [(given, changes)]) next.content := by
  obtain ⟨hclaim, hnext, hcontent⟩ := h.of_update hupdate
  have hfits : Journal.Fits (given, changes) := by
    apply hnext.fit (given, changes)
    rw [Arena.getElem?_put (Record.index_le_of_claim hclaim), if_pos rfl]
  rw [Journal.arenaOf_concat, hcontent]
  exact ⟨hnext, hwritten.append hclaim (Journal.frame_eq_ok hfits)⟩

/-- The entries that updates stored in a new log, one after the other, are what its file holds. -/
theorem Updated.written {volume : Volume} {path : String} {first log : FileLog}
    {entries : List Journal.Entry} (h : first.Updated entries log) (hlinks : volume.LinksEnd)
    (hopen : (openPath volume path).result = .ok first)
    (hfresh : ∀ place, first.file = .linked place → volume.content? place = none) :
    ∃ directory name, log.Mirrors directory name (Journal.arenaOf entries) ∧
      Journal.Written entries log.content := by
  induction h with
  | refl =>
    obtain ⟨-, hheader, directory, name, hmirrors⟩ := mirrors_empty_of_openPath hlinks hopen hfresh
    exact ⟨directory, name, hmirrors, hheader ▸ .fresh⟩
  | update before updated ih =>
    obtain ⟨directory, name, hmirrors, hwritten⟩ := ih
    exact ⟨directory, name, hmirrors.written_update hwritten updated⟩

/-! ## What opening makes of it -/

/-- A log file that was cut off anywhere opens as the log of the entries whose frames lie wholly
inside what is left, and from there on it answers as an arena with these entries. -/
theorem a_cut_log_keeps_its_whole_frames {volume : Volume} {path : String}
    {entries kept : List Journal.Entry} {content : List UInt8} {n : Nat}
    (hwritten : Journal.Written entries content) (hn : n ≤ content.length)
    (hkept : kept = Journal.framesWithin (n - Journal.header.length) entries)
    (hlinks : volume.LinksEnd)
    (hlimit : ∀ most ∈ volume.sizeLimit, Journal.header.length ≤ most)
    (hread : volume.read path = .ok (content.take n)) :
    ∃ log notices, openPath volume path = ⟨.ok log, log.volume, notices⟩ ∧
      log.volume.read path = .ok (Journal.logOf kept) ∧
      (∀ record, log.changes (some record) = match kept.reverse.lookup record with
        | some changes => .ok changes
        | none => .error (.unknownRecord record)) ∧
      log.count = (kept.map Prod.fst).toFinset.card ∧
      ((∃ notice ∈ notices, notice.severity = .warning) ↔
        0 < n ∧ ∀ front back, entries = front ++ back → n ≠ (Journal.logOf front).length) ∧
      ∀ requests, (Journal.arenaOf kept).WithinBounds requests →
        (log.volume.HasRoom path → ∀ answer ∈ log.answers requests, answer.isFault = false) ∧
          ((∀ answer ∈ log.answers requests, answer.isFault = false) →
            log.answers requests = (Journal.arenaOf kept).answers requests) := by
  obtain ⟨directory, name, hleads, hcontent⟩ := Volume.read_eq_ok_iff.1 hread
  obtain ⟨index, repair, hrecover, hrepaired, hholds, hnotices⟩ :=
    hwritten.exists_recovery hn hlimit path
  obtain ⟨rest, _, hentries, _⟩ :=
    Journal.exists_take_flatMap (n - Journal.header.length) entries
  rw [← hkept] at hrepaired hholds hentries
  have hfront := hwritten.take hentries
  have hfile : volume.get? (volume.child directory name) ≠ some .directory := by
    rw [Volume.content?_eq_some_iff.1 hcontent]
    exact nofun
  have hmirrors := mirrors_put hleads hlinks hfile hholds hfront.fit
  refine ⟨⟨volume.put (volume.child directory name) (.file (Journal.logOf kept)), path,
    .linked (volume.child directory name), index⟩,
    repairNotices path (content.take n) index repair, ?_, ?_, ?_, ?_, hnotices, ?_⟩
  · rw [openPath_of_leads hleads hcontent]
    unfold openAt
    simp only [hcontent, Option.getD_some, hrecover, hrepaired]
  · exact Volume.read_eq_ok_iff.2 ⟨directory, name, hmirrors.leads,
      Volume.content?_put (Volume.ne_root_of_content? hcontent) _ _⟩
  · intro record
    rw [hmirrors.changes_eq]
    unfold Arena.changes
    cases hlookup : kept.reverse.lookup record with
    | none => simp [hfront.slot_eq, hlookup]
    | some changes => simp [hfront.slot_eq, hlookup]
  · rw [hmirrors.count_eq, hfront.length_slots]
  · intro requests hbounds
    exact hmirrors.answers_eq hbounds

/-- Of two frames for the same record the second is cut off in its length. -/
theorem a_log_cut_in_its_second_frame_keeps_the_first :
    ∃ log notices,
      openPath { nodes := [(["log"],
          .file ((Journal.logOf [(.first, [.addFile "a" "x"]), (.first, [])]).take 30))] } "log"
        = ⟨.ok log, log.volume, notices⟩ ∧
      log.volume.read "log" = .ok (Journal.logOf [(.first, [.addFile "a" "x"])]) ∧
      log.changes (some .first) = .ok [.addFile "a" "x"] ∧ log.count = 1 := by
  have hfirst : Journal.Written [(.first, [.addFile "a" "x"])]
      (Journal.header ++ Journal.frameBytes (.first, [.addFile "a" "x"])) :=
    .append .fresh (show Record.claim 0 none = .ok .first from rfl)
      (Journal.frame_eq_ok (by decide))
  have hboth : Journal.Written [(.first, [.addFile "a" "x"]), (.first, [])]
      (Journal.header ++ Journal.frameBytes (.first, [.addFile "a" "x"])
        ++ Journal.frameBytes (.first, [])) :=
    .append hfirst (show Record.claim 1 (some .first) = .ok .first from rfl)
      (Journal.frame_eq_ok (by decide))
  have hread : Volume.read { nodes := [(["log"],
      .file ((Journal.logOf [(.first, [.addFile "a" "x"]), (.first, [])]).take 30))] } "log"
        = .ok ((Journal.header ++ Journal.frameBytes (.first, [.addFile "a" "x"])
          ++ Journal.frameBytes (.first, [])).take 30) := by
    rw [hboth.content_eq]
    rfl
  obtain ⟨log, notices, hopen, hfile, hchanges, hcount, -⟩ :=
    a_cut_log_keeps_its_whole_frames hboth (by decide) rfl
      (fun _ hlink => absurd hlink List.not_mem_nil)
      (fun _ hmost => absurd hmost (Option.not_mem_none _)) hread
  exact ⟨log, notices, hopen, hfile, hchanges .first, hcount⟩

end FileLog

end LessonHistory
