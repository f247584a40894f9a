-- Compaction. It leaves one frame for each record, in the order of the records, with the changes
-- that count. A frame that was read is no shorter than the one that is written for its entry, so
-- however a file came to hold what it holds, compacting does not make it grow; and a log that was
-- compacted is not changed by compacting it or opening it again.
import LessonHistory.Proofs.Store.Undone
import LessonHistory.Proofs.Wire.Shortest

namespace LessonHistory

namespace Arena

/-! ## The records of an arena -/

theorem store_cons_zero (first changes : List Change) (rest : List (List Change)) :
    store (first :: rest) 0 changes = changes :: rest := rfl

theorem store_cons_succ (first changes : List Change) (rest : List (List Change)) (index : Nat) :
    store (first :: rest) (index + 1) changes = first :: store rest index changes := by
  unfold store
  rw [List.length_cons]
  by_cases hlt : index < rest.length
  · rw [if_pos hlt, if_pos (Nat.succ_lt_succ hlt)]
    rfl
  · rw [if_neg hlt, if_neg (fun h => hlt (Nat.lt_of_succ_lt_succ h))]
    rfl

theorem map_index_entriesFrom {index : Nat} {slots : List (List Change)}
    (h : index + slots.length ≤ 4294967296) :
    (entriesFrom index slots).map (·.1.index) = List.range' index slots.length := by
  induction slots generalizing index with
  | nil => rfl
  | cons changes rest ih =>
    rw [List.length_cons] at h
    rw [entriesFrom_cons (by omega), List.map_cons, ih (by omega)]
    rfl

end Arena

namespace Journal

/-! ## Frames that are read and frames that are written -/

/-- An entry that was read from a frame has a frame, which is no longer. -/
theorem length_frameBytes_le_of_whole {bytes : List UInt8} {entry : Entry} {length : Nat}
    (h : Whole bytes entry length) : Fits entry ∧ (frameBytes entry).length ≤ frameLength length := by
  obtain ⟨framed, rest, tail, -, hrest, -, hentry⟩ := h
  have hlt := (Word.eq_bytes_append_of_take? hrest).1
  have hle := Wire.length_encode_le_of_decode hentry
  rw [List.length_take] at hle
  rw [length_frameBytes]
  unfold Fits frameLength
  omega

theorem Framed.fits {entries : List Entry} {frames : List UInt8} (h : Framed entries frames) :
    ∀ entry ∈ entries, Fits entry := by
  induction h with
  | nil => simp
  | cons whole exact rest ih =>
    intro other hother
    rcases List.mem_cons.1 hother with rfl | hother
    · exact (length_frameBytes_le_of_whole whole).1
    · exact ih other hother

/-- One more entry makes the frames of the records longer by no more than its own frame: it comes
in the place of an entry, or behind the last. -/
theorem length_flatMap_store {base index : Nat} {slots : List (List Change)} {entry : Entry}
    (hrecord : entry.1.index = base + index) (hindex : index ≤ slots.length) :
    ((Arena.entriesFrom base (Arena.store slots index entry.2)).flatMap frameBytes).length
      ≤ ((Arena.entriesFrom base slots).flatMap frameBytes).length + (frameBytes entry).length := by
  have hbase : base < 4294967296 := by
    have := entry.1.index_lt
    omega
  induction slots generalizing base index with
  | nil =>
    obtain rfl : index = 0 := Nat.le_zero.1 hindex
    have hentry : (⟨base, hbase⟩, entry.2) = entry := Prod.ext (Record.index_inj.1 hrecord.symm) rfl
    show ((Arena.entriesFrom base [entry.2]).flatMap frameBytes).length ≤ _
    rw [Arena.entriesFrom_cons hbase, hentry]
    simp [Arena.entriesFrom]
  | cons first rest ih =>
    cases index with
    | zero =>
      have hentry : (⟨base, hbase⟩, entry.2) = entry :=
        Prod.ext (Record.index_inj.1 hrecord.symm) rfl
      rw [Arena.store_cons_zero, Arena.entriesFrom_cons hbase, Arena.entriesFrom_cons hbase, hentry]
      simp only [List.flatMap_cons, List.length_append]
      omega
    | succ index =>
      have hnext : entry.1.index = base + 1 + index := by omega
      have hrest := ih hnext (Nat.le_of_succ_le_succ hindex) (by have := entry.1.index_lt; omega)
      rw [Arena.store_cons_succ, Arena.entriesFrom_cons hbase, Arena.entriesFrom_cons hbase]
      simp only [List.flatMap_cons, List.length_append]
      omega

theorem length_logOf_put {arena : Arena} {entry : Entry}
    (h : entry.1.index ≤ arena.slots.length) :
    (logOf (arena.put entry).entries).length
      ≤ (logOf arena.entries).length + (frameBytes entry).length := by
  have hstore := @length_flatMap_store 0 entry.1.index arena.slots entry (Nat.zero_add _).symm h
  unfold logOf
  rw [List.length_append, List.length_append, Nat.add_assoc]
  exact Nat.add_le_add_left hstore _

/-- Frames are no shorter than what they add to the frames of the records. -/
theorem Framed.length_logOf_le {entries : List Entry} {frames : List UInt8}
    (h : Framed entries frames) {before : List Entry} (hsequence : InSequence (before ++ entries)) :
    (logOf (arenaOf (before ++ entries)).entries).length
      ≤ (logOf (arenaOf before).entries).length + frames.length := by
  induction h generalizing before with
  | nil =>
    rw [List.append_nil]
    exact Nat.le_add_right _ _
  | @cons entry entries frame frames length whole exact rest ih =>
    have hput := length_logOf_put (hsequence.index_le rfl)
    have hframe := (length_frameBytes_le_of_whole whole).2
    rw [List.append_cons] at hsequence ⊢
    have hrest := ih hsequence
    rw [arenaOf_concat] at hrest
    rw [List.length_append]
    omega

/-- What is kept of a content is no shorter than the log that a compaction makes of it. -/
theorem Kept.length_logOf_le {content kept : List UInt8} {entries : List Entry}
    (h : Kept content entries kept) : (logOf (arenaOf entries).entries).length ≤ kept.length := by
  cases h with
  | header => exact Nat.le_refl _
  | frames split framed sequence rest =>
    rw [List.length_append]
    exact @Framed.length_logOf_le _ _ framed [] sequence

theorem Kept.fits {content kept : List UInt8} {entries : List Entry}
    (h : Kept content entries kept) : ∀ entry ∈ entries, Fits entry := by
  cases h with
  | header => simp
  | frames split framed sequence rest => exact framed.fits

/-! ## The log that a compaction writes -/

theorem eq_of_appendAll {content whole : List UInt8} {entries : List Entry} {offsets : List Nat}
    (h : appendAll content entries = .ok (whole, offsets)) :
    whole = content ++ entries.flatMap frameBytes ∧
      ∀ entry ∈ entries, frame entry = .ok (frameBytes entry) := by
  induction entries generalizing content offsets with
  | nil =>
    cases h
    simp
  | cons entry rest ih =>
    unfold appendAll at h
    cases hframe : frame entry with
    | error error =>
      rw [hframe] at h
      cases h
    | ok bytes =>
      obtain rfl : bytes = frameBytes entry :=
        Except.ok.inj (hframe.symm.trans (frame_eq_ok (fits_of_frame_eq_ok hframe)))
      rw [hframe] at h
      rcases hrest : appendAll (content ++ frameBytes entry) rest with error | ⟨all, others⟩
      · simp only [bind, Except.bind, hrest] at h
        cases h
      · simp only [bind, Except.bind, hrest] at h
        cases h
        obtain ⟨rfl, hothers⟩ := ih hrest
        refine ⟨by simp, ?_⟩
        intro other hother
        rcases List.mem_cons.1 hother with rfl | hother
        · exact hframe
        · exact hothers other hother

end Journal

namespace FileLog

/-! ## Logs in use -/

/-- What can become of a log that is opened at a path: it is asked for something, whatever the
answer is, and maybe opened again. -/
inductive Served : FileLog → Prop where
  | opened {volume : Volume} {path : String} {log : FileLog} (links : volume.LinksEnd)
      (opens : (openPath volume path).result = .ok log) : Served log
  | performed {log next : FileLog} {request : Request} {answer : Answer} (before : Served log)
      (performs : log.perform request = (answer, some next)) : Served next

theorem Served.settled {log : FileLog} (h : Served log) : log.Settled := by
  induction h with
  | opened links opens => exact settled_of_openPath opens
  | performed before performs ih => exact ih.perform performs

/-- The log mirrors an arena, and its file is no shorter than a compaction would make it. -/
structure Ample (log : FileLog) (directory : Place) (name : String) (arena : Arena) : Prop where
  mirrors : log.Mirrors directory name arena
  length_le : (Journal.logOf arena.entries).length ≤ log.content.length

section

variable {log next : FileLog} {directory : Place} {name : String} {arena : Arena}

theorem exists_ample_of_openPath {volume : Volume} {path : String} (hlinks : volume.LinksEnd)
    (hopen : (openPath volume path).result = .ok log) :
    ∃ directory name arena, log.Ample directory name arena := by
  obtain ⟨reached, directory, name, content, index, repair, mended, hsame, hleads, hcontent, -,
    hrecover, hmended, rfl⟩ := exists_of_openPath_ok hopen
  obtain ⟨entries, hkept, hholds⟩ := exists_kept_of_repaired hrecover hmended
  refine ⟨directory, name, Journal.arenaOf entries, ?_, ?_⟩
  · exact mirrors_of_reached (hlinks.of_links_eq hsame) hleads hcontent hholds
      (hkept.inSequence.fit hkept.fits)
  · rw [content_put (Volume.ne_root_of_content? hcontent)]
    exact hkept.length_logOf_le

/-! ## What a compaction does -/

/-- A compaction that succeeds leaves the log of the entries in the place of the file, and
compacting that log again leaves it as it is. -/
theorem Mirrors.of_compact (h : log.Mirrors directory name arena) {stats : CompactStats}
    (hcompact : log.compact = (.ok stats, next)) :
    arena.slots.length < 4294967296 ∧
      (∀ entry ∈ arena.entries, Journal.frame entry = .ok (Journal.frameBytes entry)) ∧
      stats = ⟨arena.slots.length, log.content.length, (Journal.logOf arena.entries).length⟩ ∧
      next.path = log.path ∧ next.content = Journal.logOf arena.entries ∧
      next.Mirrors directory name arena ∧ (∃ again, next.compact = (.ok again, next)) ∧
      next.volume = log.volume.replace (directory ++ [name]) (Journal.logOf arena.entries) := by
  by_cases hbound : arena.slots.length < 4294967296
  · obtain ⟨bytes, offsets, himage, hholds⟩ := h.image_eq hbound
    rw [h.compact_eq hbound himage] at hcompact
    rcases hreplace : (replaceFile log.path bytes).run log.volume with ⟨_ | place, after⟩
    · rw [hreplace] at hcompact
      cases hcompact
    · rw [hreplace] at hcompact
      obtain ⟨rfl, rfl, hagain⟩ :=
        of_run_replaceFile_of_leads h.leads h.linksEnd h.ne_directory hreplace
      cases hcompact
      obtain ⟨rfl, hframes⟩ := Journal.eq_of_appendAll himage
      have hnext := h.replaced hholds
      refine ⟨hbound, hframes, rfl, rfl, content_put (by simp) _ _ _ _, hnext, ?_, rfl⟩
      rw [hnext.compact_eq hbound himage, hagain]
      exact ⟨_, rfl⟩
  · have hcount : ¬ log.count < 4294967296 := by
      rw [h.count_eq]
      exact hbound
    unfold compact entries at hcompact
    rw [if_neg hcount] at hcompact
    cases hcompact

theorem Ample.update (h : log.Ample directory name arena) (hsettled : log.Settled)
    (record : Option Record) (changes : List Change) :
    ∃ arena, (log.update record changes).2.Ample directory name arena := by
  rcases hupdate : log.update record changes with ⟨error | given, next⟩
  · obtain rfl := hsettled.eq_of_update_error hupdate
    exact ⟨arena, h⟩
  · obtain ⟨hclaim, hnext, hcontent⟩ := h.mirrors.of_update hupdate
    refine ⟨arena.put (given, changes), hnext, ?_⟩
    have hput := @Journal.length_logOf_put arena (given, changes) (Record.index_le_of_claim hclaim)
    have hlength := h.length_le
    rw [hcontent, List.length_append]
    omega

theorem Ample.compact (h : log.Ample directory name arena) :
    log.compact.2.Ample directory name arena := by
  rcases hcompact : log.compact with ⟨error | stats, next⟩
  · obtain rfl := eq_of_compact_error hcompact
    exact h
  · obtain ⟨-, -, -, -, hcontent, hnext, -⟩ := h.mirrors.of_compact hcompact
    refine ⟨hnext, ?_⟩
    rw [hcontent]

theorem Ample.perform (h : log.Ample directory name arena) (hsettled : log.Settled)
    {request : Request} {answer : Answer} (hperform : log.perform request = (answer, some next)) :
    ∃ directory name arena, next.Ample directory name arena := by
  rcases perform_cases hperform with rfl | ⟨record, changes, rfl⟩ | rfl | hopen
  · exact ⟨directory, name, arena, h⟩
  · exact ⟨directory, name, h.update hsettled record changes⟩
  · exact ⟨directory, name, arena, h.compact⟩
  · exact exists_ample_of_openPath h.mirrors.linksEnd hopen

theorem Served.exists_ample (h : Served log) :
    ∃ directory name arena, log.Ample directory name arena := by
  induction h with
  | opened links opens => exact exists_ample_of_openPath links opens
  | performed before performs ih =>
    obtain ⟨directory, name, arena, hample⟩ := ih
    exact hample.perform before.settled performs

theorem Mirrors.read_eq (h : log.Mirrors directory name arena) :
    log.volume.read log.path = .ok log.content :=
  Volume.read_eq_ok_iff.2 ⟨directory, name, h.leads, h.stored⟩

theorem Mirrors.openPath_eq_self (h : log.Mirrors directory name arena) (hsettled : log.Settled) :
    openPath log.volume log.path = ⟨.ok log, log.volume, []⟩ := by
  have hopen := openPath_of_repair h.leads h.stored (recover_of_holds h.holds) rfl
  rw [(hsettled.placed _ h.file).2, ← h.file] at hopen
  exact hopen

end

/-- A compaction that succeeds changes no answer of the log. It makes the file one frame for each
record, in their order, and no longer than it was; and neither another compaction nor opening the
file again changes anything then. -/
theorem compaction_leaves_the_one_frame_of_each_record {log next : FileLog} {stats : CompactStats}
    (h : Served log) (hcompact : log.compact = (.ok stats, next)) :
    ∃ entries old, log.entries = .ok entries ∧
      entries.map (·.1.index) = List.range log.count ∧
      (∀ entry ∈ entries, log.changes (some entry.1) = .ok entry.2 ∧
        Journal.frame entry = .ok (Journal.frameBytes entry)) ∧
      next.count = log.count ∧ next.entries = .ok entries ∧
      (∀ record, next.changes record = log.changes record) ∧
      log.volume.read log.path = .ok old ∧
      next.volume.read log.path = .ok (Journal.header ++ entries.flatMap Journal.frameBytes) ∧
      stats = ⟨log.count, old.length,
        (Journal.header ++ entries.flatMap Journal.frameBytes).length⟩ ∧
      stats.bytesAfter ≤ stats.bytesBefore ∧
      (∃ again, next.compact = (.ok again, next)) ∧
      openPath next.volume log.path = ⟨.ok next, next.volume, []⟩ := by
  obtain ⟨directory, name, arena, hample⟩ := h.exists_ample
  have hlog := hample.mirrors
  obtain ⟨hbound, hframes, rfl, hpath, hcontent, hnext, hagain, -⟩ := hlog.of_compact hcompact
  have hsettled : next.Settled := by
    have hcompacted := h.settled.compact
    rwa [hcompact] at hcompacted
  refine ⟨arena.entries, log.content, hlog.entries_eq hbound, ?_, ?_, ?_, hnext.entries_eq hbound, ?_,
    hlog.read_eq, ?_, ?_, hample.length_le, hagain, ?_⟩
  · rw [hlog.count_eq, List.range_eq_range']
    exact Arena.map_index_entriesFrom (by omega)
  · intro entry hentry
    have hslot := (Arena.getElem?_of_mem_entriesFrom hentry).2
    rw [Nat.sub_zero] at hslot
    refine ⟨?_, hframes entry hentry⟩
    rw [hlog.changes_eq]
    unfold Arena.changes
    simp only [hslot]
  · rw [hnext.count_eq, hlog.count_eq]
  · intro record
    rw [hnext.changes_eq, hlog.changes_eq]
  · rw [← hpath, hnext.read_eq, hcontent]
    rfl
  · rw [hlog.count_eq]
    rfl
  · rw [← hpath]
    exact hnext.openPath_eq_self hsettled

/-- The only frame has the record in two bytes and one byte too many behind the changes. The frame
that is written in its place has neither. -/
theorem compacting_a_padded_log_makes_it_shorter :
    ∃ log next, Served log ∧
      log.volume.read "log" = .ok (Journal.header ++ (Journal.sumBytes (Word.bytes 4)
        ++ (Word.bytes 4 ++ ([0x80, 0, 0, 0xFF] ++ Journal.sumBytes [0x80, 0, 0, 0xFF])))) ∧
      log.compact = (.ok ⟨1, 21, 19⟩, next) ∧ log.changes (some .first) = .ok [] ∧
      next.changes (some .first) = .ok [] ∧
      next.volume.read "log" = .ok (Journal.header ++ Journal.frameBytes (.first, [])) ∧
      (∃ again, next.compact = (.ok again, next)) ∧
      openPath next.volume "log" = ⟨.ok next, next.volume, []⟩ := by
  let padded := Journal.header ++ (Journal.sumBytes (Word.bytes 4)
    ++ (Word.bytes 4 ++ ([0x80, 0, 0, 0xFF] ++ Journal.sumBytes [0x80, 0, 0, 0xFF])))
  let log : FileLog := ⟨{ nodes := [(["log"], .file padded)] }, "log", .linked ["log"], ⟨[5], 21⟩⟩
  let next : FileLog := ⟨{ nodes := [(["log"], .file (Journal.logOf [(.first, [])]))] }, "log",
    .linked ["log"], ⟨[5], 19⟩⟩
  have hopen : (openPath { nodes := [(["log"], .file (padded ++ [1, 2, 3]))] } "log").result
      = .ok log := by decide +kernel
  have hcompact : log.compact = (.ok ⟨1, 21, 19⟩, next) := by decide +kernel
  have hserved : Served log := .opened (fun _ hlink => absurd hlink List.not_mem_nil) hopen
  have hread : log.changes (some .first) = .ok [] := by decide +kernel
  have hfound : log.entries = .ok [(.first, [])] := by decide +kernel
  obtain ⟨entries, old, hentries, -, -, -, -, hchanges, -, hfile, -, -, hagain, hopened⟩ :=
    compaction_leaves_the_one_frame_of_each_record hserved hcompact
  cases hfound.symm.trans hentries
  refine ⟨log, next, hserved, rfl, hcompact, hread, ?_, ?_, hagain, hopened⟩
  · rw [hchanges, hread]
  · simpa using hfile

end FileLog

end LessonHistory
