-- Writes that fail. A log that was opened and used in whatever way keeps its file just as long as
-- it takes it to be, so what a failed update has put behind the frames can be cut off without a
-- trace; and a compaction touches nothing but its draft until nothing can fail any more.
import LessonHistory.Proofs.Store.Recovery
import LessonHistory.Proofs.Store.Refinement

namespace LessonHistory

/-- A directory may as well be deleted before something is put where it is not. -/
theorem Volume.removeTree_put {place other : Place} (h : ¬ place.isPrefixOf other = true)
    (volume : Volume) (node : Node) :
    (volume.put other node).removeTree place = (volume.removeTree place).put other node := by
  unfold removeTree put
  simp [h, List.filter_filter, Bool.and_comm]

namespace FileLog

/-! ## Logs in use -/

/-- The log on a volume where no file may grow past the limit. -/
def limitedTo (log : FileLog) (limit : Option Nat) : FileLog :=
  { log with volume := { log.volume with sizeLimit := limit } }

/-- What an operation does while no file may grow past the limit. -/
def within {α : Type} (log : FileLog) (limit : Option Nat) (operation : FileLog → α × FileLog) :
    α × FileLog :=
  let (answer, next) := operation (log.limitedTo limit)
  (answer, next.limitedTo log.volume.sizeLimit)

/-- What can become of a log that is opened on any volume: it is asked for something, the size
limit changes, or a directory is deleted, which may be one that holds the log. -/
inductive Reached : FileLog → Prop where
  | opened {volume : Volume} {path : String} {log : FileLog}
      (opens : (openPath volume path).result = .ok log) : Reached log
  | performed {log next : FileLog} {request : Request} {answer : Answer} (before : Reached log)
      (performs : log.perform request = (answer, some next)) : Reached next
  | limited {log : FileLog} (before : Reached log) (limit : Option Nat) :
      Reached (log.limitedTo limit)
  | removed {log : FileLog} (before : Reached log) (place : Place) :
      Reached (log.afterRemoval place)

/-- The file of the log ends where the log takes it to end, and is written where it was read. -/
structure Settled (log : FileLog) : Prop where
  whole : log.index.finish = log.content.length
  placed : ∀ place, log.file = .linked place →
    place ≠ [] ∧ log.volume.put place (.file log.content) = log.volume

section

variable {log : FileLog}

theorem settled_put {place : Place} (hplace : place ≠ []) {content : List UInt8}
    {index : Journal.Index} (hindex : index.finish = content.length) (volume : Volume)
    (path : String) : Settled ⟨volume.put place (.file content), path, .linked place, index⟩ := by
  have hcontent := content_put hplace volume content path index
  refine ⟨by rw [hcontent]; exact hindex, ?_⟩
  intro other hother
  cases hother
  rw [hcontent]
  exact ⟨hplace, volume.put_put _ _ _⟩

theorem settled_unlinked {content : List UInt8} {index : Journal.Index}
    (hindex : index.finish = content.length) (volume : Volume) (path : String) :
    Settled ⟨volume, path, .unlinked content, index⟩ :=
  ⟨hindex, fun _ hplace => by cases hplace⟩

theorem index_withContent (log : FileLog) (content : List UInt8) :
    (log.withContent content).index = log.index := by
  unfold FileLog.withContent
  split <;> rfl

theorem path_withContent (log : FileLog) (content : List UInt8) :
    (log.withContent content).path = log.path := by
  unfold FileLog.withContent
  split <;> rfl

theorem Settled.withContent_content (h : log.Settled) : log.withContent log.content = log := by
  rcases log with ⟨volume, path, place | content, index⟩
  · show FileLog.mk (volume.put place (.file _)) path (.linked place) index = _
    rw [(h.placed place rfl).2]
  · rfl

theorem Settled.withContent (h : log.Settled) {content : List UInt8} {index : Journal.Index}
    (hindex : index.finish = content.length) :
    Settled { log.withContent content with index } := by
  rcases log with ⟨volume, path, place | found, index'⟩
  · exact settled_put (h.placed place rfl).1 hindex volume path
  · exact settled_unlinked hindex volume path

/-! ## What every step keeps -/

theorem settled_of_openPath {volume : Volume} {path : String}
    (h : (openPath volume path).result = .ok log) : log.Settled := by
  obtain ⟨reached, directory, name, content, index, repair, mended, -, -, hcontent, -, hrecover,
    hrepaired, rfl⟩ := exists_of_openPath_ok h
  obtain ⟨entries, -, hholds⟩ := exists_kept_of_repaired hrecover hrepaired
  exact settled_put (Volume.ne_root_of_content? hcontent) hholds.whole reached path

/-- An append fails and nothing of it stays, or it puts the frame of the entry behind the
content. -/
theorem Settled.append_cases (h : log.Settled) (record : Option Record) (changes : List Change) :
    (∃ error, log.append record changes = (.error error, log, [])) ∨
    (∃ given, Record.claim log.count record = .ok given ∧ Journal.Fits (given, changes) ∧
      log.append record changes = (.ok given,
        { log.withContent (log.content ++ Journal.frameBytes (given, changes)) with
          index := noteAppended log.index given (Journal.frameBytes (given, changes)).length },
        [])) := by
  unfold FileLog.append
  split
  · exact .inl ⟨_, rfl⟩
  · rename_i given hclaim
    split
    · exact .inl ⟨_, rfl⟩
    · rename_i frame hframe
      have hfits := Journal.fits_of_frame_eq_ok hframe
      rw [Journal.frame_eq_ok hfits] at hframe
      cases hframe
      rcases log.writeAtFinish_cases h.whole (Journal.frameBytes (given, changes))
        with ⟨-, fault, hwrite⟩ | hwrite
      · rw [hwrite, h.withContent_content]
        exact .inl ⟨_, rfl⟩
      · rw [hwrite]
        refine .inr ⟨given, hclaim, hfits, ?_⟩
        simp only [index_withContent]

/-- A compaction fails without a trace, whatever log it is asked of, or the log is in a new file
that holds all that was written. -/
theorem compact_cases (log : FileLog) :
    (∃ error, log.compact = (.error error, log)) ∨
    (∃ stats before place entries bytes offsets, place ≠ [] ∧ log.entries = .ok entries ∧
      Journal.image entries = .ok (bytes, offsets) ∧ log.compact = (.ok stats,
        ⟨Volume.put before place (.file bytes), log.path, .linked place,
          ⟨offsets, bytes.length⟩⟩)) := by
  unfold compact
  split
  · exact .inl ⟨_, rfl⟩
  · rename_i entries hentries
    split
    · exact .inl ⟨_, rfl⟩
    · rename_i bytes offsets himage
      split
      · rename_i hreplace
        rw [eq_of_run_replaceFile_error hreplace]
        exact .inl ⟨_, rfl⟩
      · rename_i hreplace
        obtain ⟨-, hplace, before, rfl⟩ := exists_of_run_replaceFile_ok hreplace
        exact .inr ⟨_, before, _, entries, bytes, offsets, hplace, hentries, himage, rfl⟩

theorem Settled.append (h : log.Settled) (record : Option Record) (changes : List Change) :
    (log.append record changes).2.1.Settled := by
  rcases h.append_cases record changes with ⟨error, happend⟩ | ⟨given, -, -, happend⟩
  · rw [happend]
    exact h
  · rw [happend]
    apply h.withContent
    show log.index.finish + (Journal.frameBytes (given, changes)).length = _
    rw [h.whole, List.length_append]

theorem Settled.compact (h : log.Settled) : log.compact.2.Settled := by
  rcases log.compact_cases with ⟨error, hcompact⟩ |
    ⟨stats, before, place, entries, bytes, offsets, hplace, -, -, hcompact⟩
  · rw [hcompact]
    exact h
  · rw [hcompact]
    exact settled_put hplace rfl before log.path

theorem Settled.limitedTo (h : log.Settled) (limit : Option Nat) : (log.limitedTo limit).Settled := by
  refine ⟨h.whole, ?_⟩
  intro place hplace
  obtain ⟨hroot, hsame⟩ := h.placed place hplace
  refine ⟨hroot, ?_⟩
  show { log.volume.put place (.file log.content) with sizeLimit := limit } = _
  rw [hsame]
  rfl

/-- What is deleted elsewhere could as well be deleted before the last writing of the file. A log
whose file is deleted goes on with its content. -/
theorem Settled.afterRemoval_cases (h : log.Settled) (place : Place) :
    (∃ at_, at_ ≠ [] ∧ log.afterRemoval place
      = ⟨(log.volume.removeTree place).put at_ (.file log.content), log.path, .linked at_,
        log.index⟩) ∨
    log.afterRemoval place
      = ⟨log.volume.removeTree place, log.path, .unlinked log.content, log.index⟩ := by
  rcases log with ⟨volume, path, at_ | content, index⟩
  · unfold FileLog.afterRemoval
    simp only
    split
    · exact .inr rfl
    · rename_i houtside
      let content := FileLog.content ⟨volume, path, .linked at_, index⟩
      obtain ⟨hroot, hsame⟩ : at_ ≠ [] ∧ volume.put at_ (.file content) = volume :=
        h.placed at_ rfl
      have hafter := volume.removeTree_put houtside (.file content)
      rw [hsame] at hafter
      exact .inl ⟨at_, hroot, congrArg (FileLog.mk · path (.linked at_) index) hafter⟩
  · exact .inr rfl

theorem Settled.afterRemoval (h : log.Settled) (place : Place) :
    (log.afterRemoval place).Settled := by
  rcases h.afterRemoval_cases place with ⟨at_, hroot, hafter⟩ | hafter
  · rw [hafter]
    exact settled_put hroot h.whole _ _
  · rw [hafter]
    exact settled_unlinked h.whole _ _

/-- After a request a log is as it was, or as an update, a compaction or another opening leaves
it. -/
theorem perform_cases {next : FileLog} {request : Request} {answer : Answer}
    (h : log.perform request = (answer, some next)) :
    next = log ∨ (∃ record changes, next = (log.update record changes).2) ∨
      next = log.compact.2 ∨ (openPath log.volume log.path).result = .ok next := by
  cases request with
  | update record changes =>
    cases h
    exact .inr (.inl ⟨record, changes, rfl⟩)
  | updateAndForce record changes =>
    simp only [FileLog.perform, updateAndForce_eq_update] at h
    cases h
    exact .inr (.inl ⟨record, changes, rfl⟩)
  | changes record =>
    cases h
    exact .inl rfl
  | force =>
    cases h
    exact .inl rfl
  | count =>
    cases h
    exact .inl rfl
  | entries =>
    cases h
    exact .inl rfl
  | compact =>
    cases h
    exact .inr (.inr (.inl rfl))
  | reopen =>
    unfold FileLog.perform at h
    simp only at h
    split at h
    · cases h
    · rename_i hopen
      cases h
      exact .inr (.inr (.inr hopen))

theorem Settled.perform (h : log.Settled) {next : FileLog} {request : Request} {answer : Answer}
    (hperform : log.perform request = (answer, some next)) : next.Settled := by
  rcases perform_cases hperform with rfl | ⟨record, changes, rfl⟩ | rfl | hopen
  · exact h
  · exact h.append record changes
  · exact h.compact
  · exact settled_of_openPath hopen

theorem Reached.settled (h : Reached log) : log.Settled := by
  induction h with
  | opened opens => exact settled_of_openPath opens
  | performed before performs ih => exact ih.perform performs
  | limited before limit ih => exact ih.limitedTo limit
  | removed before place ih => exact ih.afterRemoval place

/-! ## Failing -/

/-- A failed update leaves nothing behind the frames. -/
theorem Settled.eq_of_update_error (h : log.Settled) {record : Option Record}
    {changes : List Change} {error : StoreError} {next : FileLog}
    (hupdate : log.update record changes = (.error error, next)) : next = log := by
  unfold FileLog.update at hupdate
  rcases h.append_cases record changes with ⟨error, happend⟩ | ⟨given, -, -, happend⟩
  · rw [happend] at hupdate
    cases hupdate
    rfl
  · rw [happend] at hupdate
    cases hupdate

theorem Settled.fst_update_of_error (h : log.Settled) {record : Option Record} {given : Record}
    {changes : List Change} (hclaim : Record.claim log.count record = .ok given)
    (hfits : Journal.Fits (given, changes)) {written : List UInt8} {fault : Fault}
    (hwrite : Content.write log.volume.sizeLimit log.content.length
      (Journal.frameBytes (given, changes)) log.content = (.error fault, written)) :
    (log.update record changes).1 = .error (.write (.io fault)) := by
  unfold FileLog.update FileLog.append
  rw [hclaim]
  simp only
  rw [Journal.frame_eq_ok hfits]
  simp only
  rw [writeAtFinish_of_error h.whole hwrite]

/-- A failed compaction leaves neither a draft nor another trace. -/
theorem eq_of_compact_error {error : StoreError} {next : FileLog}
    (h : log.compact = (.error error, next)) : next = log := by
  rcases log.compact_cases with ⟨error, hcompact⟩ | ⟨_, _, _, _, _, _, -, -, -, hcompact⟩
  · rw [hcompact] at h
    cases h
    rfl
  · rw [hcompact] at h
    cases h

theorem exists_of_mapM_ok {α β ε : Type} {f : α → Except ε β} {values : List α} {results : List β}
    (h : values.mapM f = .ok results) {value : α} (hvalue : value ∈ values) :
    ∃ result, f value = .ok result := by
  induction values generalizing results with
  | nil => cases hvalue
  | cons first rest ih =>
    rw [List.mapM_cons] at h
    cases hfirst : f first with
    | error error =>
      rw [hfirst] at h
      cases h
    | ok result =>
      cases hrest : rest.mapM f with
      | error error =>
        rw [hfirst, hrest] at h
        cases h
      | ok others =>
        rcases List.mem_cons.1 hvalue with rfl | hvalue
        · exact ⟨result, hfirst⟩
        · exact ih hrest hvalue

/-- A compaction reads every record, and fails if one of them cannot be read. -/
theorem exists_fst_compact_of_error {record : Record} {error : StoreError}
    (hrecord : record.index < log.count) (hread : log.changes (some record) = .error error) :
    ∃ cause, log.compact.1 = .error cause := by
  cases hentries : log.entries with
  | error cause =>
    refine ⟨cause, ?_⟩
    unfold compact
    rw [hentries]
  | ok found =>
    exfalso
    unfold entries at hentries
    split at hentries
    · obtain ⟨entry, hentry⟩ := exists_of_mapM_ok hentries (List.mem_range.2 hrecord)
      have hnat : Record.ofNat? record.index = some record := dif_pos record.index_lt
      rw [hnat] at hentry
      simp only [show log.changesOf record = .error error from hread] at hentry
      cases hentry
    · cases hentries

theorem exists_fst_compact_of_limit {entries : List Journal.Entry} {bytes : List UInt8}
    {offsets : List Nat} (hentries : log.entries = .ok entries)
    (himage : Journal.image entries = .ok (bytes, offsets)) {fault : Fault}
    (hwrite : (Content.write log.volume.sizeLimit 0 bytes []).1 = .error fault) :
    ∃ cause, log.compact.1 = .error (.write (.compaction log.path cause)) := by
  unfold compact
  rw [hentries]
  simp only
  rw [himage]
  simp only
  split
  · rename_i cause after hreplace
    exact ⟨cause, rfl⟩
  · rename_i hreplace
    obtain ⟨hdone, -, -⟩ := exists_of_run_replaceFile_ok hreplace
    rw [hwrite] at hdone
    cases hdone

/-! ## Failing under a size limit -/

/-- When the operation fails under whatever size limit, the log and its whole volume are what
they were before. -/
def LeavesNoTrace {α : Type} (log : FileLog)
    (operation : FileLog → Except StoreError α × FileLog) : Prop :=
  ∀ limit error next, log.within limit operation = (.error error, next) → next = log

theorem leavesNoTrace_of_eq {α : Type} {operation : FileLog → Except StoreError α × FileLog}
    (h : ∀ limit error next,
      operation (log.limitedTo limit) = (.error error, next) → next = log.limitedTo limit) :
    log.LeavesNoTrace operation := by
  intro limit error next hwithin
  unfold within at hwithin
  rcases hrun : operation (log.limitedTo limit) with ⟨answer, left⟩
  rw [hrun] at hwithin
  cases hwithin
  rw [h limit error left hrun]
  rfl

theorem LeavesNoTrace.within_eq {α : Type} {operation : FileLog → Except StoreError α × FileLog}
    (h : log.LeavesNoTrace operation) {limit : Option Nat} {error : StoreError}
    (hfails : (log.within limit operation).1 = .error error) :
    log.within limit operation = (.error error, log) :=
  Prod.ext hfails (h limit error _ (Prod.ext hfails rfl))

end

/-- A write that fails, after whatever part of a frame or of a draft, makes the operation fail,
and so does a record that cannot be read back; and an operation that fails leaves the log as it
was, with its count, its offsets and every file on its volume, so nothing that is asked later can
tell that it was tried. -/
theorem a_write_that_fails_changes_nothing {log : FileLog} (h : Reached log) :
    (∀ record changes, log.LeavesNoTrace (·.update record changes) ∧
      log.LeavesNoTrace (·.updateAndForce record changes)) ∧
    (∀ found, (log.withContent found).LeavesNoTrace compact) ∧
    (∀ record changes given k, Record.claim log.count record = .ok given →
      Journal.Fits (given, changes) → k < (Journal.frameBytes (given, changes)).length →
      Content.write (some (log.index.finish + k)) log.index.finish
          (Journal.frameBytes (given, changes)) log.content
        = (.error .fileTooLarge, log.content ++ (Journal.frameBytes (given, changes)).take k) ∧
      (log.within (some (log.index.finish + k)) (·.update record changes)).1
        = .error (.write (.io .fileTooLarge)) ∧
      (log.within (some (log.index.finish + k)) (·.updateAndForce record changes)).1
        = .error (.write (.io .fileTooLarge))) ∧
    (∀ found limit record error, record.index < log.count →
      (log.withContent found).changes (some record) = .error error →
      ∃ cause, ((log.withContent found).within limit compact).1 = .error cause) ∧
    (∀ found entries bytes offsets k, (log.withContent found).entries = .ok entries →
      Journal.image entries = .ok (bytes, offsets) → k < bytes.length →
      Content.write (some k) 0 bytes [] = (.error .fileTooLarge, bytes.take k) ∧
      ∃ cause, ((log.withContent found).within (some k) compact).1
        = .error (.write (.compaction log.path cause))) := by
  have hsettled := h.settled
  refine ⟨?_, ?_, ?_, ?_, ?_⟩
  · intro record changes
    have hupdate : log.LeavesNoTrace (·.update record changes) :=
      leavesNoTrace_of_eq fun limit _ _ hfail => (hsettled.limitedTo limit).eq_of_update_error hfail
    refine ⟨hupdate, ?_⟩
    simp only [updateAndForce_eq_update]
    exact hupdate
  · intro found
    exact leavesNoTrace_of_eq fun _ _ _ hfail => eq_of_compact_error hfail
  · intro record changes given k hclaim hfits hk
    have hstops := Content.write_length_of_lt hk log.content
    have hupdate : (log.within (some (log.index.finish + k)) (·.update record changes)).1
        = .error (.write (.io .fileTooLarge)) := by
      rw [h.settled.whole]
      exact (hsettled.limitedTo (some (log.content.length + k))).fst_update_of_error hclaim hfits hstops
    refine ⟨?_, hupdate, ?_⟩
    · rw [hsettled.whole]
      exact hstops
    · simp only [updateAndForce_eq_update]
      exact hupdate
  · intro found limit record error hrecord hread
    have hcount : record.index < ((log.withContent found).limitedTo limit).count := by
      show record.index < (log.withContent found).index.offsets.length
      rw [index_withContent]
      exact hrecord
    exact exists_fst_compact_of_error hcount hread
  · intro found entries bytes offsets k hentries himage hk
    have hstops := Content.write_length_of_lt hk []
    rw [List.length_nil, Nat.zero_add, List.nil_append] at hstops
    have hlimited : ((log.withContent found).limitedTo (some k)).entries = .ok entries := hentries
    rw [← path_withContent log found]
    exact ⟨hstops, exists_fst_compact_of_limit hlimited himage (congrArg Prod.fst hstops)⟩

/-- A log with one entry. Neither three bytes of another frame nor nine bytes of a draft nor a
compaction after the entry was damaged leave a trace. -/
theorem an_update_that_stops_after_three_bytes_changes_nothing :
    ∃ log, Reached log ∧ log.changes (some .first) = .ok [.addFile "a" "x"] ∧
      log.within (some (log.content.length + 3)) (·.update (some .first) [])
        = (.error (.write (.io .fileTooLarge)), log) ∧
      (∃ cause, log.within (some 9) compact
        = (.error (.write (.compaction "log" cause)), log)) ∧
      ∃ cause, (log.withContent (log.content.set 15 255)).within none compact
        = (.error cause, log.withContent (log.content.set 15 255)) := by
  have hopen : (openPath { nodes := [] } "log").result = .ok
      ⟨{ nodes := [(["log"], .file Journal.header)] }, "log", .linked ["log"], ⟨[], 5⟩⟩ := rfl
  let log : FileLog := ⟨{ nodes := [(["log"],
    .file (Journal.logOf [(.first, [.addFile "a" "x"])]))] }, "log", .linked ["log"], ⟨[5], 24⟩⟩
  have hupdate : FileLog.update
      ⟨{ nodes := [(["log"], .file Journal.header)] }, "log", .linked ["log"], ⟨[], 5⟩⟩
      none [.addFile "a" "x"] = (.ok .first, log) := by decide +kernel
  have hperform : FileLog.perform
      ⟨{ nodes := [(["log"], .file Journal.header)] }, "log", .linked ["log"], ⟨[], 5⟩⟩
      (.update none [.addFile "a" "x"]) = (.given (.ok .first), some log) := by
    simp only [perform, hupdate]
  have himage : Journal.image [(.first, [.addFile "a" "x"])]
      = .ok (Journal.logOf [(.first, [.addFile "a" "x"])], [5]) := by decide +kernel
  obtain ⟨hupdates, hcompacts, hstops, hdamaged, hdrafts⟩ :=
    a_write_that_fails_changes_nothing (.performed (.opened hopen) hperform)
  refine ⟨log, .performed (.opened hopen) hperform, by decide +kernel, ?_, ?_, ?_⟩
  · obtain ⟨-, hfails, -⟩ := hstops (some .first) [] .first 3 rfl (by decide) (by decide)
    exact (hupdates _ _).1.within_eq hfails
  · obtain ⟨-, cause, hfails⟩ :=
      hdrafts log.content _ _ _ 9 (by decide +kernel) himage (by decide)
    exact ⟨cause, (hcompacts log.content).within_eq hfails⟩
  · obtain ⟨cause, hfails⟩ := hdamaged (log.content.set 15 255) none .first
      (.read .first (.payloadChecksum 5)) (by decide) (by decide +kernel)
    exact ⟨cause, (hcompacts _).within_eq hfails⟩

end FileLog

end LessonHistory
