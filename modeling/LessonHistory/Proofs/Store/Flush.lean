-- Flushes that fail. The update before such a flush is taken back, and the log is the very log that
-- it was. So whatever becomes of the flushes, the file of a log grows by the frames of just those
-- updates that were answered with a record.
import LessonHistory.Proofs.Store.Intact

namespace LessonHistory

namespace FileLog

/-- Updates one after the other, each with what comes of its flush: the entries of those that were
answered with a record, and the log in the end. -/
def saveAll (log : FileLog) :
    List (Except Fault Unit × Option Record × List Change) → List Journal.Entry × FileLog
  | [] => ([], log)
  | (flushed, record, changes) :: rest =>
    match log.appendAndSync flushed record changes with
    | (.error _, next, _) => next.saveAll rest
    | (.ok given, next, _) => ((given, changes) :: (next.saveAll rest).1, (next.saveAll rest).2)

section

variable {log : FileLog}

/-! ## Taking an update back -/

theorem withContent_withContent (log : FileLog) (first second : List UInt8)
    (index : Journal.Index) :
    { log.withContent first with index }.withContent second
      = { log.withContent second with index } := by
  rcases log with ⟨volume, path, place | content, old⟩
  · exact congrArg (FileLog.mk · path (.linked place) index) (volume.put_put _ _ _)
  · rfl

theorem offsets_checkpoint {record : Option Record} {given : Record}
    (hclaim : Record.claim log.count record = .ok given) (length : Nat) :
    (log.checkpoint record).offsets (noteAppended log.index given length).offsets
      = log.index.offsets := by
  have hcount : log.count = log.index.offsets.length := rfl
  unfold Checkpoint.offsets checkpoint noteAppended
  rcases Record.claim_cases hclaim with ⟨rfl, hlt⟩ | ⟨rfl, heq⟩
  · rw [hcount] at hlt
    simp [hlt, List.take_of_length_le]
  · rw [hcount] at heq
    simp [heq]

/-- The log that an append has left goes back to the very log that the append has found. -/
theorem Settled.restore_append (h : log.Settled) {record : Option Record} {given : Record}
    (hclaim : Record.claim log.count record = .ok given) (frame : List UInt8) :
    restore { log.withContent (log.content ++ frame) with
        index := noteAppended log.index given frame.length } (log.checkpoint record)
      = (.ok (), log) := by
  have hfinish : (log.checkpoint record).finish = log.content.length := h.whole
  have hindex : (⟨log.index.offsets, log.content.length⟩ : Journal.Index) = log.index := by
    rw [← h.whole]
  unfold restore
  simp only
  rw [offsets_checkpoint hclaim, hfinish, hindex, h.content_withContent,
    Content.setLength_append]
  simp only
  rw [withContent_withContent, h.withContent_content]

/-- An update that is not flushed fails, with its own error or with that of the flush, and the log
is the very log that it was. -/
theorem Settled.appendAndSync_error (h : log.Settled) (fault : Fault) (record : Option Record)
    (changes : List Change) :
    log.appendAndSync (.error fault) record changes
      = ((log.update record changes).1.bind fun _ => .error (.write (.flush fault)), log, []) := by
  unfold appendAndSync update
  rcases h.append_cases record changes with ⟨error, happend⟩ | ⟨given, hclaim, -, happend⟩
  · rw [happend]
    rfl
  · simp only [happend, sync, h.restore_append hclaim]
    rfl

theorem Settled.appendAndSync_cases (h : log.Settled) (flushed : Except Fault Unit)
    (record : Option Record) (changes : List Change) :
    (∃ error, log.appendAndSync flushed record changes = (.error error, log, [])) ∨
    (∃ given next, flushed = .ok () ∧ log.update record changes = (.ok given, next) ∧
      log.appendAndSync flushed record changes = (.ok given, next, [])) := by
  cases flushed with
  | error fault =>
    rw [h.appendAndSync_error]
    cases (log.update record changes).1 with
    | error error => exact .inl ⟨error, rfl⟩
    | ok given => exact .inl ⟨_, rfl⟩
  | ok done =>
    rw [appendAndSync_ok]
    unfold update
    rcases h.append_cases record changes with ⟨error, happend⟩ | ⟨given, -, -, happend⟩
    · exact .inl ⟨error, happend⟩
    · refine .inr ⟨given, _, rfl, ?_, happend⟩
      rw [happend]

/-! ## One update after the other -/

theorem Settled.content_of_update (h : log.Settled) {next : FileLog} {record : Option Record}
    {given : Record} {changes : List Change}
    (hupdate : log.update record changes = (.ok given, next)) :
    next.content = log.content ++ Journal.frameBytes (given, changes) := by
  unfold update at hupdate
  rcases h.append_cases record changes with ⟨error, happend⟩ | ⟨made, -, -, happend⟩
  · rw [happend] at hupdate
    cases hupdate
  · rw [happend] at hupdate
    cases hupdate
    exact h.content_withContent _ _

/-- What updates have put into a log that was there: their frames, and for each of their records
what came last. -/
theorem Reached.of_updated (h : Reached log) {entries : List Journal.Entry} {last : FileLog}
    (hupdated : log.Updated entries last) :
    Reached last ∧ last.content = log.content ++ entries.flatMap Journal.frameBytes ∧
      ∀ record, last.changes (some record)
        = (entries.reverse.lookup record).elim (log.changes (some record)) .ok := by
  induction hupdated with
  | refl => exact ⟨h, (List.append_nil _).symm, fun _ => rfl⟩
  | @update entries middle last record given changes before updated ih =>
    obtain ⟨hmiddle, hcontent, hread⟩ := ih
    obtain ⟨-, hlast, hafter⟩ := hmiddle.of_update_ok updated
    refine ⟨hlast, ?_, ?_⟩
    · rw [hmiddle.settled.content_of_update updated, hcontent, List.append_assoc,
        List.flatMap_append]
      simp
    · intro other
      rw [hafter, hread, List.reverse_concat, FileState.lookup_entry_cons]
      split <;> rfl

/-- Whatever becomes of the flushes, the updates that are answered with a record are the only ones
that were made. -/
theorem Reached.updated_saveAll (h : Reached log)
    (updates : List (Except Fault Unit × Option Record × List Change)) :
    log.Updated (log.saveAll updates).1 (log.saveAll updates).2 := by
  induction updates generalizing log with
  | nil => exact .refl
  | cons update rest ih =>
    obtain ⟨flushed, record, changes⟩ := update
    unfold saveAll
    rcases h.settled.appendAndSync_cases flushed record changes with
      ⟨error, hsave⟩ | ⟨given, next, -, hupdate, hsave⟩
    · rw [hsave]
      exact ih h
    · rw [hsave]
      exact (Updated.refl.update hupdate).trans (ih (h.of_update_ok hupdate).2.1)

/-- Every update that is answered with a record has its frame in the file and can be read, and of
an update that is answered with an error, because of its flush or otherwise, there is no trace. -/
theorem the_updates_that_are_answered_are_those_that_are_kept (h : Reached log)
    (updates : List (Except Fault Unit × Option Record × List Change)) :
    Reached (log.saveAll updates).2 ∧
      (log.saveAll updates).2.content
        = log.content ++ (log.saveAll updates).1.flatMap Journal.frameBytes ∧
      ∀ record, (log.saveAll updates).2.changes (some record)
        = ((log.saveAll updates).1.reverse.lookup record).elim (log.changes (some record)) .ok :=
  h.of_updated (h.updated_saveAll updates)

/-- The file of a new log is one that updates which all succeed could have written. -/
theorem a_new_log_is_written_by_the_updates_that_are_answered {volume : Volume} {path : String}
    (hlinks : volume.LinksEnd) (hopen : (openPath volume path).result = .ok log)
    (hfresh : ∀ place, log.file = .linked place → volume.content? place = none)
    (updates : List (Except Fault Unit × Option Record × List Change)) :
    ∃ directory name,
      (log.saveAll updates).2.Mirrors directory name (Journal.arenaOf (log.saveAll updates).1) ∧
      Journal.Written (log.saveAll updates).1 (log.saveAll updates).2.content :=
  ((Reached.opened hopen).updated_saveAll updates).written hlinks hopen hfresh

end

/-- The record of an update that was not flushed is given to the next one. -/
example : (saveAll ⟨{ nodes := [(["log"], .file Journal.header)] }, "log", .linked ["log"], ⟨[], 5⟩⟩
    [(.error .inputOutput, none, [.addFile "a" "x"]), (.ok (), none, [])]).1 = [(.first, [])] := by
  rfl

end FileLog

end LessonHistory
