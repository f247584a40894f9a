-- Runs of requests to a store. Asked the same things in the same order, a log answers as an
-- arena does, whether or not it is compacted or opened again in between. Only a fault of the
-- volume makes a difference.
import LessonHistory.Proofs.Store.Mirror

namespace LessonHistory

/-! ## Requests and answers -/

/-- What can be asked of a store. To be reopened is to be closed and opened again. -/
inductive Request where
  | update (record : Option Record) (changes : List Change)
  | updateAndForce (record : Option Record) (changes : List Change)
  | changes (record : Option Record)
  | force
  | count
  | entries
  | compact
  | reopen

/-- What a store answers. Of a compaction only the number of records is told. -/
inductive Answer where
  | given (outcome : Except StoreError Record)
  | found (outcome : Except StoreError (List Change))
  | forced (outcome : Except StoreError Unit)
  | counted (count : Nat)
  | listed (outcome : Except StoreError (List Journal.Entry))
  | compacted (outcome : Except StoreError Nat)
  | reopened (outcome : Except StoreError Unit)

/-- Whether the volume is to blame for the error. -/
def StoreError.isFault : StoreError → Bool
  | .open _ _ => true
  | write (.io _) => true
  | write (.compaction _ _) => true
  | _ => false

namespace Answer

/-- Whether an outcome is an error that the volume is to blame for. -/
def isFaultOf {α : Type} : Except StoreError α → Bool
  | .ok _ => false
  | .error error => error.isFault

/-- Whether the volume is to blame for the answer. -/
def isFault : Answer → Bool
  | given outcome => isFaultOf outcome
  | found outcome => isFaultOf outcome
  | forced outcome => isFaultOf outcome
  | counted _ => false
  | listed outcome => isFaultOf outcome
  | compacted outcome => isFaultOf outcome
  | reopened outcome => isFaultOf outcome

end Answer

/-- What a log answers, and the log afterwards. A log that cannot be opened again is lost. -/
def FileLog.perform (log : FileLog) : Request → Answer × Option FileLog
  | .update record changes =>
    let (outcome, log) := log.update record changes
    (.given outcome, some log)
  | .updateAndForce record changes =>
    let (outcome, log) := log.updateAndForce record changes
    (.given outcome, some log)
  | .changes record => (.found (log.changes record), some log)
  | .force =>
    let (outcome, log) := log.force
    (.forced outcome, some log)
  | .count => (.counted log.count, some log)
  | .entries => (.listed log.entries, some log)
  | .compact =>
    let (outcome, log) := log.compact
    (.compacted (outcome.map (·.records)), some log)
  | .reopen =>
    match (FileLog.openPath log.volume log.path).result with
    | .error error => (.reopened (.error error), none)
    | .ok log => (.reopened (.ok ()), some log)

/-- What a log answers to one request after the other. -/
def FileLog.answers (log : FileLog) : List Request → List Answer
  | [] => []
  | request :: rest =>
    match log.perform request with
    | (answer, none) => [answer]
    | (answer, some log) => answer :: log.answers rest

namespace Arena

/-- What an arena answers, and the arena afterwards. It has nothing to compact and nothing to
open. -/
def perform (arena : Arena) : Request → Answer × Arena
  | .update record changes =>
    let (outcome, arena) := arena.update record changes
    (.given outcome, arena)
  | .updateAndForce record changes =>
    let (outcome, arena) := ChangeLog.updateAndForce arena record changes
    (.given outcome, arena)
  | .changes record => (.found (arena.changes record), arena)
  | .force =>
    let (outcome, arena) := arena.force
    (.forced outcome, arena)
  | .count => (.counted arena.slots.length, arena)
  | .entries => (.listed (.ok arena.entries), arena)
  | .compact => (.compacted (.ok arena.slots.length), arena)
  | .reopen => (.reopened (.ok ()), arena)

def answers (arena : Arena) : List Request → List Answer
  | [] => []
  | request :: rest => (arena.perform request).1 :: (arena.perform request).2.answers rest

end Arena

/-- Whether the entry that the request stores, if it stores one, has a frame. -/
def Request.Fits (arena : Arena) : Request → Prop
  | update record stored =>
    ∀ given, Record.claim arena.slots.length record = .ok given → Journal.Fits (given, stored)
  | updateAndForce record stored =>
    ∀ given, Record.claim arena.slots.length record = .ok given → Journal.Fits (given, stored)
  | _ => True

/-- Never are all records given out, and every entry has a frame. -/
def Arena.WithinBounds (arena : Arena) : List Request → Prop
  | [] => True
  | request :: rest =>
    arena.slots.length < 4294967296 ∧ request.Fits arena ∧
      (arena.perform request).2.WithinBounds rest

/-! ## One request -/

theorem FileLog.appendAndSync_ok (log : FileLog) (record : Option Record) (changes : List Change) :
    log.appendAndSync (.ok ()) record changes = log.append record changes := by
  unfold appendAndSync
  rcases log.append record changes with ⟨_ | given, next, notices⟩
  · rfl
  · rfl

theorem FileLog.updateAndForce_eq_update (log : FileLog) (record : Option Record)
    (changes : List Change) : log.updateAndForce record changes = log.update record changes := by
  unfold updateAndForce appendAndForce update
  rw [appendAndSync_ok]

theorem Arena.updateAndForce_eq_update (arena : Arena) (record : Option Record)
    (changes : List Change) :
    ChangeLog.updateAndForce arena record changes = arena.update record changes := by
  show ChangeLog.updateThenForce update force arena record changes = _
  unfold ChangeLog.updateThenForce
  rcases arena.update record changes with ⟨_ | given, next⟩
  · rfl
  · rfl

theorem Record.isFault_claim (count : Nat) (record : Option Record) :
    Answer.isFaultOf (Record.claim count record) = false := by
  unfold claim
  split
  · split <;> rfl
  · split <;> rfl

theorem Arena.fst_update (arena : Arena) (record : Option Record) (changes : List Change) :
    (arena.update record changes).1 = Record.claim arena.slots.length record := by
  unfold update
  split
  · rename_i herror
    rw [herror]
  · rename_i hok
    rw [hok]

theorem Arena.isFault_perform (arena : Arena) (request : Request) :
    (arena.perform request).1.isFault = false := by
  cases request with
  | update record changes =>
    show Answer.isFaultOf (arena.update record changes).1 = false
    rw [fst_update]
    exact Record.isFault_claim _ _
  | updateAndForce record changes =>
    show Answer.isFaultOf (ChangeLog.updateAndForce arena record changes).1 = false
    rw [updateAndForce_eq_update, fst_update]
    exact Record.isFault_claim _ _
  | changes record =>
    show Answer.isFaultOf (arena.changes record) = false
    unfold changes
    split
    · rfl
    · split <;> rfl
  | force => rfl
  | count => rfl
  | entries => rfl
  | compact => rfl
  | reopen => rfl

namespace FileLog

section

variable {log : FileLog} {directory : Place} {name : String} {arena : Arena}

theorem Mirrors.update_cases (h : log.Mirrors directory name arena) (record : Option Record)
    (changes : List Change)
    (hfits : ∀ given, Record.claim arena.slots.length record = .ok given →
      Journal.Fits (given, changes)) :
    (¬ log.volume.HasRoom log.path ∧ Answer.isFaultOf (log.update record changes).1 = true) ∨
    (∃ next, log.update record changes = ((arena.update record changes).1, next) ∧
      next.Mirrors directory name (arena.update record changes).2 ∧
      (log.volume.HasRoom log.path → next.volume.HasRoom next.path)) := by
  unfold update Arena.update
  rcases h.append_cases record changes with ⟨error, hclaim, happend⟩ | ⟨given, _, hclaim, hlong, _⟩ |
    ⟨fault, next, hroom, -, happend⟩ | ⟨given, next, hclaim, happend, hnext, -, hroom⟩
  · rw [hclaim, happend]
    exact .inr ⟨log, rfl, h, id⟩
  · exact absurd (hfits given hclaim) hlong
  · rw [happend]
    exact .inl ⟨hroom, rfl⟩
  · rw [hclaim, happend]
    exact .inr ⟨next, rfl, hnext, hroom⟩

theorem Mirrors.of_update (h : log.Mirrors directory name arena) {next : FileLog}
    {record : Option Record} {given : Record} {changes : List Change}
    (hupdate : log.update record changes = (.ok given, next)) :
    Record.claim arena.slots.length record = .ok given ∧
      next.Mirrors directory name (arena.put (given, changes)) ∧
      next.content = log.content ++ Journal.frameBytes (given, changes) := by
  unfold update at hupdate
  rcases h.append_cases record changes with ⟨error, -, happend⟩ | ⟨found, cause, -, -, happend⟩ |
    ⟨fault, left, -, -, happend⟩ | ⟨found, left, hclaim, happend, hnext, hcontent, -⟩
  · rw [happend] at hupdate
    cases hupdate
  · rw [happend] at hupdate
    cases hupdate
  · rw [happend] at hupdate
    cases hupdate
  · rw [happend] at hupdate
    cases hupdate
    exact ⟨hclaim, hnext, hcontent⟩

/-- To one request a log that mirrors an arena answers as the arena does, and still mirrors it
then, if only the volume has room. -/
theorem Mirrors.perform_cases (h : log.Mirrors directory name arena)
    (hbound : arena.slots.length < 4294967296) {request : Request} (hfits : request.Fits arena) :
    (¬ log.volume.HasRoom log.path ∧ (log.perform request).1.isFault = true) ∨
    (∃ next, log.perform request = ((arena.perform request).1, some next) ∧
      next.Mirrors directory name (arena.perform request).2 ∧
      (log.volume.HasRoom log.path → next.volume.HasRoom next.path)) := by
  cases request with
  | update record changes =>
    rcases h.update_cases record changes hfits with ⟨hroom, hfault⟩ | ⟨next, hupdate, hnext, hroom⟩
    · exact .inl ⟨hroom, hfault⟩
    · refine .inr ⟨next, ?_, hnext, hroom⟩
      simp only [perform, hupdate]
      rfl
  | updateAndForce record changes =>
    simp only [perform, Arena.perform, updateAndForce_eq_update, Arena.updateAndForce_eq_update]
    rcases h.update_cases record changes hfits with ⟨hroom, hfault⟩ | ⟨next, hupdate, hnext, hroom⟩
    · exact .inl ⟨hroom, hfault⟩
    · refine .inr ⟨next, ?_, hnext, hroom⟩
      rw [hupdate]
  | changes record =>
    refine .inr ⟨log, ?_, h, id⟩
    simp only [perform, h.changes_eq]
    rfl
  | force => exact .inr ⟨log, rfl, h, id⟩
  | count =>
    refine .inr ⟨log, ?_, h, id⟩
    simp only [perform, h.count_eq]
    rfl
  | entries =>
    refine .inr ⟨log, ?_, h, id⟩
    simp only [perform, h.entries_eq hbound]
    rfl
  | compact =>
    simp only [perform, Arena.perform]
    rcases h.compact_cases hbound with ⟨fault, hroom, hcompact⟩ |
      ⟨stats, next, hcompact, hrecords, hnext, hroom⟩
    · rw [hcompact]
      exact .inl ⟨hroom, rfl⟩
    · rw [hcompact, ← hrecords]
      exact .inr ⟨next, rfl, hnext, hroom⟩
  | reopen =>
    obtain ⟨next, hopen, hnext, hroom⟩ := h.openPath_eq
    refine .inr ⟨next, ?_, hnext, hroom⟩
    simp only [perform, hopen]
    rfl

/-! ## Runs -/

/-- Asked one thing after the other, a log that mirrors an arena answers as the arena does. -/
theorem Mirrors.answers_eq {requests : List Request} (h : log.Mirrors directory name arena)
    (hbounds : arena.WithinBounds requests) :
    (log.volume.HasRoom log.path → ∀ answer ∈ log.answers requests, answer.isFault = false) ∧
      ((∀ answer ∈ log.answers requests, answer.isFault = false) →
        log.answers requests = arena.answers requests) := by
  -- That the log mirrors the arena is kept by every request, so the rest of a run is again one.
  induction requests generalizing log arena with
  | nil =>
    constructor
    · intro _ answer hanswer
      cases hanswer
    · intro _
      rfl
  | cons request rest ih =>
    obtain ⟨hbound, hfits, hrest⟩ := hbounds
    unfold answers Arena.answers
    rcases h.perform_cases hbound hfits with ⟨hroom, hfault⟩ | ⟨next, hperform, hnext, hroom⟩
    · refine ⟨fun hroom' => absurd hroom' hroom, ?_⟩
      intro hok
      have hfirst : (log.perform request).1.isFault = false := by
        apply hok
        rcases log.perform request with ⟨answer, _ | next⟩
        · exact List.mem_singleton_self _
        · exact List.mem_cons_self
      rw [hfault] at hfirst
      cases hfirst
    · simp only [hperform]
      obtain ⟨hsafe, hequal⟩ := ih hnext hrest
      constructor
      · intro hroom' answer hanswer
        rcases List.mem_cons.1 hanswer with rfl | hanswer
        · exact arena.isFault_perform request
        · exact hsafe (hroom hroom') answer hanswer
      · intro hok
        rw [hequal]
        intro answer hanswer
        exact hok answer (List.mem_cons_of_mem _ hanswer)

end

/-- A log that was opened where no file was answers as the empty arena does, whatever it is
asked, unless the volume fails; and the volume fails only where there is no room. -/
theorem a_fresh_log_answers_as_an_arena {volume : Volume} {path : String} {log : FileLog}
    {requests : List Request} (hlinks : volume.LinksEnd)
    (hopen : (openPath volume path).result = .ok log)
    (hfresh : ∀ place, log.file = .linked place → volume.content? place = none)
    (hbounds : Arena.empty.WithinBounds requests) :
    (log.volume.HasRoom path → ∀ answer ∈ log.answers requests, answer.isFault = false) ∧
      ((∀ answer ∈ log.answers requests, answer.isFault = false) →
        log.answers requests = Arena.empty.answers requests) := by
  obtain ⟨rfl, -, directory, name, hmirrors⟩ := mirrors_empty_of_openPath hlinks hopen hfresh
  exact hmirrors.answers_eq hbounds

/-- A log on an empty volume that is compacted and opened again between two updates. -/
theorem a_log_on_an_empty_volume_answers_as_an_arena :
    FileLog.answers
        ⟨{ nodes := [(["log"], .file Journal.header)] }, "log", .linked ["log"], ⟨[], 5⟩⟩
        [.update none [.addFile "a" "x"], .compact, .reopen, .updateAndForce (some .first) [],
          .update (some ⟨7, by decide⟩) [], .changes (some .first), .entries]
      = Arena.empty.answers
        [.update none [.addFile "a" "x"], .compact, .reopen, .updateAndForce (some .first) [],
          .update (some ⟨7, by decide⟩) [], .changes (some .first), .entries] := by
  have hopen : (openPath { nodes := [] } "log").result = .ok
      ⟨{ nodes := [(["log"], .file Journal.header)] }, "log", .linked ["log"], ⟨[], 5⟩⟩ := rfl
  have hbounds : Arena.empty.WithinBounds
      [.update none [.addFile "a" "x"], .compact, .reopen, .updateAndForce (some .first) [],
        .update (some ⟨7, by decide⟩) [], .changes (some .first), .entries] := by
    refine ⟨by decide, ?_, by decide, trivial, by decide, trivial, by decide, ?_, by decide, ?_,
      by decide, trivial, by decide, trivial, trivial⟩
    · intro given hgiven
      cases hgiven
      decide
    · intro given hgiven
      cases hgiven
      decide
    · intro given hgiven
      cases hgiven
  have hanswers := a_fresh_log_answers_as_an_arena
    (fun _ hlink => absurd hlink List.not_mem_nil) hopen
    (fun place hplace => by cases hplace; rfl) hbounds
  exact hanswers.2 (hanswers.1 ⟨rfl, ⟨_, rfl⟩, fun _ _ _ => rfl⟩)

end FileLog

end LessonHistory
