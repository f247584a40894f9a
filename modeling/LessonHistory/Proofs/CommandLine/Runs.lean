-- Runs of the program. Every run opens the log anew, and nothing goes from one run to the next but
-- what is on the volume; yet they answer as one log that stays open. A run that does not compact
-- takes nothing from the log but what is torn at its end, and every run says by its status how far
-- it came.
import LessonHistory.CommandLine
import LessonHistory.Proofs.Store.Compaction

namespace LessonHistory

namespace StoreError

theorem isWrite_eq_not_isRead (error : StoreError) : error.isWrite = !error.isRead := by
  cases error <;> rfl

theorem exitStatus_eq (error : StoreError) :
    error.exitStatus = if error.isRead then 2 else 3 := by
  unfold exitStatus
  rw [isWrite_eq_not_isRead]
  cases error.isRead <;> rfl

end StoreError

namespace FileLog

theorem volume_openPath {volume : Volume} {path : String} {log : FileLog}
    (h : (openPath volume path).result = .ok log) : (openPath volume path).volume = log.volume := by
  unfold openPath openAt at h ⊢
  simp only at h ⊢
  split at h
  · cases h
  · split at h
    · cases h
    · split at h
      · cases h
      · cases h
        rfl

theorem path_of_openPath {volume : Volume} {path : String} {log : FileLog}
    (h : (openPath volume path).result = .ok log) : log.path = path := by
  obtain ⟨_, _, _, _, _, _, _, -, -, -, -, -, -, rfl⟩ := exists_of_openPath_ok h
  rfl

theorem links_of_openPath {volume : Volume} {path : String} {log : FileLog}
    (h : (openPath volume path).result = .ok log) : log.volume.links = volume.links := by
  obtain ⟨_, _, _, _, _, _, _, hlinks, -, -, -, -, -, rfl⟩ := exists_of_openPath_ok h
  exact hlinks

end FileLog

namespace Invocation

variable {invocation : Invocation} {settings : Settings} {command : Command} {log : FileLog}

/-! ## One run -/

/-- What a run shows of the answer of a log, after the notices on opening it. -/
def reported (settings : Settings) (notices : List Notice) (answer : Except StoreError String)
    (volume : Volume) : Outcome :=
  match answer with
  | .error error =>
    { status := error.exitStatus
      output := ""
      complaints := Notice.linesAt settings.logLevel
        (notices ++ [error.notice settings.storePath])
      volume }
  | .ok output =>
    { status := 0
      output
      complaints := Notice.linesAt settings.logLevel notices
      volume }

theorem volume_reported (settings : Settings) (notices : List Notice)
    (answer : Except StoreError String) (volume : Volume) :
    (reported settings notices answer volume).volume = volume := by
  cases answer <;> rfl

/-- What comes of a command: the log may not open, or gives an answer. -/
def answer (invocation : Invocation) (settings : Settings) (command : Command) :
    Except StoreError String :=
  (invocation.openLog settings.storePath).result >>= fun log => (perform log command).1

theorem runCommand_of_error {error : StoreError}
    (h : (invocation.openLog settings.storePath).result = .error error) :
    invocation.runCommand settings command
      = reported settings (invocation.openLog settings.storePath).notices (.error error)
        (invocation.openLog settings.storePath).volume := by
  unfold runCommand
  simp only [h]
  rfl

theorem runCommand_of_ok (h : (invocation.openLog settings.storePath).result = .ok log) :
    invocation.runCommand settings command
      = reported settings (invocation.openLog settings.storePath).notices
        (perform log command).1 (perform log command).2.volume := by
  unfold runCommand
  simp only [h]
  rcases perform log command with ⟨_ | output, next⟩ <;> rfl

/-- A run shows what comes of its command. -/
theorem exists_runCommand_eq (invocation : Invocation) (settings : Settings) (command : Command) :
    ∃ volume, invocation.runCommand settings command
      = reported settings (invocation.openLog settings.storePath).notices
        (invocation.answer settings command) volume := by
  unfold answer
  cases h : (invocation.openLog settings.storePath).result with
  | error error => exact ⟨_, runCommand_of_error h⟩
  | ok log => exact ⟨_, runCommand_of_ok h⟩

theorem status_runCommand (invocation : Invocation) (settings : Settings) (command : Command) :
    (invocation.runCommand settings command).status
      = match invocation.answer settings command with
        | .error error => error.exitStatus
        | .ok _ => 0 := by
  obtain ⟨volume, hrun⟩ := invocation.exists_runCommand_eq settings command
  rw [hrun]
  cases invocation.answer settings command <;> rfl

theorem output_runCommand (invocation : Invocation) (settings : Settings) (command : Command) :
    (invocation.runCommand settings command).output
      = match invocation.answer settings command with
        | .error _ => ""
        | .ok output => output := by
  obtain ⟨volume, hrun⟩ := invocation.exists_runCommand_eq settings command
  rw [hrun]
  cases invocation.answer settings command <;> rfl

/-! ## The log of a run -/

theorem openLog_eq_ok_iff {path : String} :
    (invocation.openLog path).result = .ok log ↔
      (FileLog.openPath invocation.volume path).result = .ok log ∧
        log.file ≠ .linked Volume.emptyDevice := by
  unfold openLog
  simp only
  split
  · rename_i herror
    simp [herror]
  · rename_i opened hopen
    split
    · rename_i hdevice
      simp only [hopen, reduceCtorEq, false_iff, Except.ok.injEq]
      rintro ⟨rfl, hother⟩
      exact hother hdevice
    · rename_i hother
      simp only [hopen, Except.ok.injEq]
      constructor
      · rintro rfl
        exact ⟨rfl, hother⟩
      · exact And.left

theorem openLog_eq {path : String} (h : (invocation.openLog path).result = .ok log) :
    invocation.openLog path = FileLog.openPath invocation.volume path := by
  obtain ⟨hopen, hdevice⟩ := openLog_eq_ok_iff.1 h
  unfold openLog
  simp only [hopen, if_neg hdevice]

theorem volume_openLog {path : String} (h : (invocation.openLog path).result = .ok log) :
    (invocation.openLog path).volume = log.volume := by
  rw [openLog_eq h]
  exact FileLog.volume_openPath (openLog_eq_ok_iff.1 h).1

theorem perform_cases (log : FileLog) (command : Command) :
    (perform log command).2 = log ∨
      command = .compact ∧ ∃ stats next, log.compact = (.ok stats, next) ∧
        perform log command = (.ok stats.line, next) := by
  cases command with
  | records => exact .inl rfl
  | changes record => exact .inl rfl
  | compact =>
    rcases hcompact : log.compact with ⟨error | stats, next⟩
    · obtain rfl := FileLog.eq_of_compact_error hcompact
      unfold perform
      simp only [hcompact]
      exact .inl trivial
    · refine .inr ⟨rfl, stats, next, rfl, ?_⟩
      unfold perform
      simp only [hcompact]
      rfl

/-- What opening the log has left on the volume is what the run leaves there, but for a compaction
that succeeds. -/
theorem volume_runCommand
    (h : command ≠ .compact ∨ (invocation.runCommand settings command).status ≠ 0) :
    (invocation.runCommand settings command).volume
      = (invocation.openLog settings.storePath).volume := by
  cases hopen : (invocation.openLog settings.storePath).result with
  | error error => rw [runCommand_of_error hopen, volume_reported]
  | ok log =>
    rw [runCommand_of_ok hopen] at h ⊢
    rw [volume_openLog hopen, volume_reported]
    rcases perform_cases log command with hsame | ⟨rfl, stats, next, -, hperform⟩
    · rw [hsame]
    · rw [hperform] at h
      exact absurd rfl (h.resolve_left (absurd rfl))

/-- A run that finds no settings touches no file, and one that does not compact leaves what opening
its log has left. -/
theorem what_a_run_leaves (invocation : Invocation) :
    invocation.run.volume = invocation.volume ∨
      ∃ arguments settings, invocation.read = .ok arguments ∧
        invocation.settings arguments.options = .ok settings ∧
        (invocation.run.volume = (invocation.openLog settings.storePath).volume ∨
          arguments.command = some .compact ∧ invocation.run.status = 0) := by
  unfold run
  cases hread : invocation.read with
  | error error =>
    left
    simp only
    split <;> rfl
  | ok arguments =>
    cases hsettings : invocation.settings arguments.options with
    | error error =>
      left
      simp only [hsettings]
    | ok settings =>
      right
      refine ⟨arguments, settings, rfl, hsettings, ?_⟩
      simp only [hsettings]
      by_cases h : arguments.command = some .compact ∧
          (invocation.runCommand settings (arguments.command.getD .records)).status = 0
      · exact .inr h
      · left
        apply volume_runCommand
        rw [or_iff_not_imp_left, not_not]
        intro hcompact hstatus
        refine h ⟨?_, hstatus⟩
        cases hcommand : arguments.command with
        | none =>
          rw [hcommand] at hcompact
          cases hcompact
        | some command =>
          rw [hcommand] at hcompact
          exact congrArg some hcompact

/-! ## The status -/

/-- A run ends with 0 when all went well, with 1 when there are no settings, with 2 when the
arguments or the log cannot be read, and with 3 when the log cannot be written. Only a run that ends
with 0 has an output. -/
theorem the_status_says_how_far_a_run_came (invocation : Invocation) :
    invocation.run.status ≤ 3 ∧ (invocation.run.status ≠ 0 → invocation.run.output = "") ∧
    (invocation.run.status = 1 ↔ ∃ arguments error, invocation.read = .ok arguments ∧
      invocation.settings arguments.options = .error error) ∧
    (invocation.run.status = 2 ↔
      (∃ error, invocation.read = .error error ∧ error.answer? invocation.environment = none) ∨
      ∃ arguments settings error, invocation.read = .ok arguments ∧
        invocation.settings arguments.options = .ok settings ∧
        invocation.answer settings (arguments.command.getD .records) = .error error ∧
        error.isRead = true) ∧
    (invocation.run.status = 3 ↔ ∃ arguments settings error, invocation.read = .ok arguments ∧
      invocation.settings arguments.options = .ok settings ∧
      invocation.answer settings (arguments.command.getD .records) = .error error ∧
      error.isWrite = true) := by
  unfold run
  cases hread : invocation.read with
  | error error =>
    cases hanswer : error.answer? invocation.environment with
    | none => simp [hanswer]
    | some output => simp [hanswer]
  | ok arguments =>
    cases hsettings : invocation.settings arguments.options with
    | error error => simp [hsettings]
    | ok settings =>
      have hstatus := invocation.status_runCommand settings (arguments.command.getD .records)
      have houtput := invocation.output_runCommand settings (arguments.command.getD .records)
      cases hanswer : invocation.answer settings (arguments.command.getD .records) with
      | ok output =>
        rw [hanswer] at hstatus
        simp [hsettings, hstatus, hanswer]
      | error error =>
        rw [hanswer] at hstatus houtput
        simp only [StoreError.exitStatus_eq] at hstatus houtput
        cases hkind : error.isRead <;>
          simp [hsettings, hstatus, houtput, hanswer, hkind, StoreError.isWrite_eq_not_isRead]

/-! ## One run after the other -/

/-- What runs come to, each on the files as the one before has left them. -/
def runEach (invocation : Invocation) (settings : Settings) : List Command → List Outcome
  | [] => []
  | command :: rest =>
    let outcome := invocation.runCommand settings command
    outcome :: { invocation with volume := outcome.volume }.runEach settings rest

/-- What one open log answers to the commands, shown as runs show it. -/
def reports (settings : Settings) (notices : List Notice) (log : FileLog) :
    List Command → List Outcome
  | [] => []
  | command :: rest =>
    let (answer, next) := perform log command
    reported settings notices answer next.volume :: reports settings [] next rest

/-- An open log as a run would find it that opens the path. -/
structure Standing (log : FileLog) (path : String) : Prop where
  served : log.Served
  at_path : log.path = path
  apart : log.file ≠ .linked Volume.emptyDevice
  unlinked : log.volume.links.lookup Volume.emptyDevice = none

theorem Standing.openLog {path : String} (h : Standing log path) (invocation : Invocation) :
    { invocation with volume := log.volume }.openLog path = ⟨.ok log, log.volume, []⟩ := by
  obtain ⟨directory, name, arena, hample⟩ := h.served.exists_ample
  have hagain := hample.mirrors.openPath_eq_self h.served.settled
  rw [h.at_path] at hagain
  have hresult : (FileLog.openPath log.volume path).result = .ok log := by rw [hagain]
  have hopen : ({ invocation with volume := log.volume }.openLog path).result = .ok log :=
    openLog_eq_ok_iff.2 ⟨hresult, h.apart⟩
  exact (openLog_eq hopen).trans hagain

/-- The file that a compaction puts in the place of the log is no device, for the device is where it
was and has no other name. -/
theorem Standing.perform {path : String} (h : Standing log path) (command : Command) :
    Standing (perform log command).2 path := by
  rcases perform_cases log command with hsame | ⟨-, stats, next, hcompact, hperform⟩
  · rw [hsame]
    exact h
  · rw [hperform]
    obtain ⟨directory, name, arena, hample⟩ := h.served.exists_ample
    obtain ⟨-, -, -, hpath, -, hnext, -, hvolume⟩ := hample.mirrors.of_compact hcompact
    have hserved : next.Served := by
      have hrequest : log.perform .compact
          = (.compacted ((Except.ok stats).map (·.records)), some next) := by
        unfold FileLog.perform
        simp only [hcompact]
      exact .performed h.served hrequest
    refine ⟨hserved, hpath.trans h.at_path, ?_, ?_⟩
    · intro hfile
      rw [hnext.file, hvolume, Volume.child_replace_self] at hfile
      have hdevice : directory ++ [name] = Volume.emptyDevice := OpenFile.linked.inj hfile
      refine h.apart ?_
      rw [hample.mirrors.file]
      unfold Volume.child
      rw [hdevice, h.unlinked]
      rfl
    · rw [hvolume, Volume.lookup_links_replace, h.unlinked, ite_self]

theorem runEach_eq_reports {notices : List Notice}
    (hstanding : Standing log settings.storePath)
    (hopen : invocation.openLog settings.storePath = ⟨.ok log, log.volume, notices⟩)
    (commands : List Command) :
    invocation.runEach settings commands = reports settings notices log commands := by
  induction commands generalizing invocation log notices with
  | nil => rfl
  | cons command rest ih =>
    have hfirst : invocation.runCommand settings command
        = reported settings notices (perform log command).1 (perform log command).2.volume := by
      rw [runCommand_of_ok (by rw [hopen]), hopen]
    have hvolume : (invocation.runCommand settings command).volume
        = (perform log command).2.volume := by
      rw [hfirst, volume_reported]
    have hnext := hstanding.perform command
    unfold runEach reports
    simp only
    rw [ih hnext (by rw [hvolume]; exact hnext.openLog invocation), hfirst]

/-- What is on the volume is all that goes from one run to the next, and it is enough: runs answer
as one log that is opened once and stays open. -/
theorem runs_answer_as_one_log_that_stays_open (hlinks : invocation.volume.LinksEnd)
    (hdevice : invocation.volume.links.lookup Volume.emptyDevice = none)
    (hopen : (invocation.openLog settings.storePath).result = .ok log) (commands : List Command) :
    invocation.runEach settings commands
      = reports settings (invocation.openLog settings.storePath).notices log commands := by
  obtain ⟨hopened, hapart⟩ := openLog_eq_ok_iff.1 hopen
  refine runEach_eq_reports ⟨.opened hlinks hopened, FileLog.path_of_openPath hopened, hapart, ?_⟩
    ?_ commands
  · rw [FileLog.links_of_openPath hopened]
    exact hdevice
  · rw [← hopen, ← volume_openLog hopen]

/-- The log has two frames for the first record, and the second of three runs compacts it. -/
example :
    (runEach
        { arguments := []
          environment := []
          accountHome? := none
          volume :=
            { nodes := [(["log"], .file (Journal.logOf [(.first, [.addFile "a" "x"]),
                (.first, [])]))] } }
        ⟨"log", .keep, "info"⟩ [.records, .compact, .changes ⟨1, by decide⟩]).map
      (fun outcome => (outcome.status, (outcome.volume.content? ["log"]).map List.length))
      = [(0, some 38), (0, some 19), (2, some 19)] := by
  decide +kernel

/-! ## The file that a run finds -/

section

variable {content kept : List UInt8} {entries : List Journal.Entry}

theorem exists_openLog_of_kept {path : String}
    (hdevice : ∀ found, invocation.volume.content? Volume.emptyDevice = some found → found = [])
    (hlimit : ∀ most ∈ invocation.volume.sizeLimit, Journal.header.length ≤ most)
    (hread : invocation.volume.read path = .ok content) (hcontent : content ≠ [])
    (hkept : Journal.Kept content entries kept) :
    ∃ log place notices, invocation.volume.get? place = some (.file content) ∧ place ≠ [] ∧
      log.volume = invocation.volume.put place (.file kept) ∧
      log.volume.read path = .ok kept ∧
      Journal.Holds log.content log.index (Journal.arenaOf entries) ∧
      invocation.openLog path = ⟨.ok log, log.volume, notices⟩ ∧
      (kept = content → notices = []) := by
  obtain ⟨directory, name, hleads, hfound⟩ := Volume.read_eq_ok_iff.1 hread
  have hfile := Volume.content?_eq_some_iff.1 hfound
  have hroot := Volume.ne_root_of_content? hfound
  obtain ⟨index, notices, hholds, hopen, hwhole⟩ :=
    FileLog.openPath_of_kept hleads hfound hlimit hkept
  have hapart : invocation.volume.child directory name ≠ Volume.emptyDevice := by
    intro hplace
    rw [hplace] at hfound
    exact hcontent (hdevice content hfound)
  let log : FileLog := ⟨invocation.volume.put (invocation.volume.child directory name) (.file kept),
    path, .linked (invocation.volume.child directory name), index⟩
  have hresult : (FileLog.openPath invocation.volume path).result = .ok log := by rw [hopen]
  have hopened : (invocation.openLog path).result = .ok log :=
    openLog_eq_ok_iff.2 ⟨hresult, fun hlinked => hapart (OpenFile.linked.inj hlinked)⟩
  have hdirectory : invocation.volume.get? (invocation.volume.child directory name)
      ≠ some .directory := by
    rw [hfile]
    exact nofun
  refine ⟨log, _, notices, hfile, hroot, rfl, ?_, ?_, (openLog_eq hopened).trans hopen, hwhole⟩
  · exact Volume.read_eq_ok_iff.2
      ⟨directory, name, hleads.put hdirectory kept, Volume.content?_put hroot _ kept⟩
  · rw [FileLog.content_put hroot]
    exact hholds

/-- A run that does not compact changes no file but the log, and takes from the log no more than
what is torn at its end. A whole log stays as it is, and there is nothing to tell of it. -/
theorem a_run_that_only_reads_keeps_what_the_log_holds
    (hdevice : ∀ found, invocation.volume.content? Volume.emptyDevice = some found → found = [])
    (hlimit : ∀ most ∈ invocation.volume.sizeLimit, Journal.header.length ≤ most)
    (hread : invocation.volume.read settings.storePath = .ok content) (hcontent : content ≠ [])
    (hkept : Journal.Kept content entries kept) (hcommand : command ≠ .compact) :
    ∃ place, invocation.volume.get? place = some (.file content) ∧
      (invocation.runCommand settings command).volume.get? place = some (.file kept) ∧
      (∀ other, other ≠ place → (invocation.runCommand settings command).volume.get? other
        = invocation.volume.get? other) ∧
      (invocation.runCommand settings command).volume.read settings.storePath = .ok kept ∧
      (kept = content → (invocation.openLog settings.storePath).notices = []) := by
  obtain ⟨log, place, notices, hfile, hroot, hvolume, hagain, -, hopen, hwhole⟩ :=
    exists_openLog_of_kept hdevice hlimit hread hcontent hkept
  have hafter : (invocation.runCommand settings command).volume = log.volume := by
    rw [volume_runCommand (.inl hcommand), hopen]
  rw [hafter, hopen]
  refine ⟨place, hfile, ?_, ?_, hagain, hwhole⟩
  · rw [hvolume, Volume.get?_put_self hroot]
  · intro other hother
    rw [hvolume, Volume.get?_put_of_ne hother]

/-- What is shown is what the file holds: of every record the last changes. -/
theorem what_a_run_shows_is_what_the_log_holds
    (hdevice : ∀ found, invocation.volume.content? Volume.emptyDevice = some found → found = [])
    (hlimit : ∀ most ∈ invocation.volume.sizeLimit, Journal.header.length ≤ most)
    (hread : invocation.volume.read settings.storePath = .ok content) (hcontent : content ≠ [])
    (hkept : Journal.Kept content entries kept) :
    invocation.answer settings .records
      = (if (entries.map Prod.fst).toFinset.card < 4294967296
        then .ok (joinLines ((Journal.arenaOf entries).entries.map fun entry =>
          entry.1.display ++ "\t" ++ toString entry.2.length ++ " change(s)"))
        else .error .recordSpaceExhausted) ∧
    ∀ record, invocation.answer settings (.changes record)
      = match entries.reverse.lookup record with
        | none => .error (.unknownRecord record)
        | some changes => .ok (joinLines (changes.map Change.display)) := by
  obtain ⟨log, place, notices, -, -, -, -, hholds, hopen, -⟩ :=
    exists_openLog_of_kept hdevice hlimit hread hcontent hkept
  have hanswer : ∀ command, invocation.answer settings command = (perform log command).1 := by
    intro command
    unfold answer
    rw [hopen]
    rfl
  have hsequence := hkept.inSequence
  refine ⟨?_, ?_⟩
  · have hlisting : (perform log .records).1 = log.listing := rfl
    rw [hanswer, hlisting]
    unfold FileLog.listing
    rw [FileLog.entries_eq_of_holds hholds, hsequence.length_slots]
    split <;> rfl
  · intro record
    have hshowing : (perform log (.changes record)).1 = log.showing record := rfl
    have hchanges := FileLog.changes_eq_of_holds hholds (some record)
    unfold FileLog.changes Arena.changes at hchanges
    simp only [hsequence.slot_eq] at hchanges
    rw [hanswer, hshowing]
    unfold FileLog.showing
    rw [hchanges]
    cases entries.reverse.lookup record <;> rfl

end

end Invocation

end LessonHistory
