-- Stores of which nothing is lost. What such a store took can be read, for one record it alters what
-- it has for no other, and after an update that fails it is the very same. So is an arena, also while
-- its updates are made to fail, and so is a log that was opened and used in whatever way.
import LessonHistory.Proofs.Store.Compaction
import LessonHistory.Proofs.Store.Faithful

namespace LessonHistory

/-- A store that gives what it took, and that a failed update leaves as it was. -/
class IntactLog (σ : Type) [ChangeLog σ] where
  Intact : σ → Prop
  of_update_ok {store after : σ} {record : Option Record} {changes : List Change} {given : Record}
    (intact : Intact store) (taken : ChangeLog.update store record changes = (.ok given, after)) :
    Record.claim (ChangeLog.count store) record = .ok given ∧ Intact after ∧
      ∀ other, ChangeLog.changes after (some other)
        = if other = given then .ok changes else ChangeLog.changes store (some other)
  eq_of_update_error {store after : σ} {record : Option Record} {changes : List Change}
    {error : StoreError} (intact : Intact store)
    (refused : ChangeLog.update store record changes = (.error error, after)) : after = store

/-! ## Arenas -/

namespace Arena

variable {arena after : Arena} {record : Option Record} {changes : List Change}

theorem of_update_ok {given : Record} (h : arena.update record changes = (.ok given, after)) :
    Record.claim arena.slots.length record = .ok given ∧
      ∀ other, after.changes (some other)
        = if other = given then .ok changes else arena.changes (some other) := by
  obtain ⟨hclaim, rfl⟩ := claim_of_update h
  exact ⟨hclaim, changes_put (Record.index_le_of_claim hclaim)⟩

theorem eq_of_update_error {error : StoreError}
    (h : arena.update record changes = (.error error, after)) : after = arena := by
  unfold update at h
  split at h
  · cases h
    rfl
  · cases h

instance : IntactLog Arena where
  Intact _ := True
  of_update_ok _ taken := ⟨(of_update_ok taken).1, trivial, (of_update_ok taken).2⟩
  eq_of_update_error _ refused := eq_of_update_error refused

end Arena

namespace SwitchedArena

variable {store after : SwitchedArena} {record : Option Record} {changes : List Change}

theorem of_update_ok {given : Record} (hread : store.switches.read = false)
    (h : store.update record changes = (.ok given, after)) :
    Record.claim store.arena.slots.length record = .ok given ∧ after.switches.read = false ∧
      ∀ other, after.changes (some other)
        = if other = given then .ok changes else store.changes (some other) := by
  unfold update at h
  split at h
  · cases h
  · rcases hupdate : store.arena.update record changes with ⟨outcome, arena⟩
    rw [hupdate] at h
    cases h
    obtain ⟨hclaim, hchanges⟩ := Arena.of_update_ok hupdate
    refine ⟨hclaim, hread, ?_⟩
    intro other
    unfold SwitchedArena.changes
    simp only [hread, Bool.false_eq_true, if_false]
    exact hchanges other

theorem eq_of_update_error {error : StoreError}
    (h : store.update record changes = (.error error, after)) : after = store := by
  unfold update at h
  split at h
  · cases h
    rfl
  · rcases hupdate : store.arena.update record changes with ⟨outcome, arena⟩
    rw [hupdate] at h
    cases h
    rw [Arena.eq_of_update_error hupdate]

instance : IntactLog SwitchedArena where
  Intact store := store.switches.read = false
  of_update_ok intact taken := of_update_ok intact taken
  eq_of_update_error _ refused := eq_of_update_error refused

end SwitchedArena

/-! ## Logs -/

theorem Journal.holds_image {arena : Arena} (hbound : arena.slots.length < 4294967296)
    {bytes : List UInt8} {offsets : List Nat} (himage : image arena.entries = .ok (bytes, offsets)) :
    Holds bytes ⟨offsets, bytes.length⟩ arena := by
  have hfits : ∀ entry ∈ arena.entries, Fits entry := fun entry hentry =>
    fits_of_frame_eq_ok ((eq_of_appendAll himage).2 entry hentry)
  obtain ⟨whole, found, hwhole, hholds⟩ := exists_image hbound hfits
  rw [himage] at hwhole
  cases hwhole
  exact hholds

namespace FileLog

variable {log next : FileLog} {arena : Arena}

theorem Settled.content_withContent (h : log.Settled) (content : List UInt8)
    (index : Journal.Index) : FileLog.content { log.withContent content with index } = content := by
  rcases log with ⟨volume, path, place | found, index'⟩
  · exact content_put (h.placed place rfl).1 volume content path index
  · rfl

theorem Settled.update_cases (h : log.Settled)
    (hholds : Journal.Holds log.content log.index arena) (record : Option Record)
    (changes : List Change) :
    (∃ error, log.update record changes = (.error error, log)) ∨
    (∃ given next, log.update record changes = (.ok given, next) ∧
      Record.claim arena.slots.length record = .ok given ∧
      Journal.Holds next.content next.index (arena.put (given, changes))) := by
  unfold update
  rcases h.append_cases record changes with ⟨error, happend⟩ | ⟨given, hclaim, hfits, happend⟩
  · rw [happend]
    exact .inl ⟨error, rfl⟩
  · rw [happend]
    rw [show log.count = arena.slots.length from hholds.count] at hclaim
    refine .inr ⟨given, _, rfl, hclaim, ?_⟩
    rw [h.content_withContent]
    exact hholds.append_frameBytes hfits (Record.index_le_of_claim hclaim)

theorem exists_holds_of_openPath {volume : Volume} {path : String}
    (h : (openPath volume path).result = .ok log) :
    ∃ arena, Journal.Holds log.content log.index arena := by
  obtain ⟨reached, directory, name, content, index, repair, mended, -, -, hcontent, -, hrecover,
    hrepaired, rfl⟩ := exists_of_openPath_ok h
  obtain ⟨entries, -, hholds⟩ := exists_kept_of_repaired hrecover hrepaired
  refine ⟨Journal.arenaOf entries, ?_⟩
  rw [content_put (Volume.ne_root_of_content? hcontent)]
  exact hholds

theorem exists_holds_compact (hholds : Journal.Holds log.content log.index arena) :
    ∃ arena, Journal.Holds log.compact.2.content log.compact.2.index arena := by
  rcases log.compact_cases with ⟨error, hcompact⟩ |
    ⟨stats, before, place, entries, bytes, offsets, hplace, hentries, himage, hcompact⟩
  · rw [hcompact]
    exact ⟨arena, hholds⟩
  · rw [entries_eq_of_holds hholds] at hentries
    split at hentries
    · rename_i hbound
      cases hentries
      rw [hcompact]
      refine ⟨arena, ?_⟩
      rw [content_put hplace]
      exact Journal.holds_image hbound himage
    · cases hentries

theorem Settled.exists_holds_update (h : log.Settled)
    (hholds : Journal.Holds log.content log.index arena) (record : Option Record)
    (changes : List Change) :
    ∃ arena, Journal.Holds (log.update record changes).2.content
      (log.update record changes).2.index arena := by
  rcases h.update_cases hholds record changes with ⟨error, hupdate⟩ |
    ⟨given, next, hupdate, -, hnext⟩
  · rw [hupdate]
    exact ⟨arena, hholds⟩
  · rw [hupdate]
    exact ⟨_, hnext⟩

theorem Settled.exists_holds_perform (h : log.Settled)
    (hholds : Journal.Holds log.content log.index arena) {request : Request} {answer : Answer}
    (hperform : log.perform request = (answer, some next)) :
    ∃ arena, Journal.Holds next.content next.index arena := by
  rcases perform_cases hperform with rfl | ⟨record, changes, rfl⟩ | rfl | hopen
  · exact ⟨arena, hholds⟩
  · exact h.exists_holds_update hholds record changes
  · exact exists_holds_compact hholds
  · exact exists_holds_of_openPath hopen

/-- However a log was used, its file holds what some arena holds. -/
theorem Reached.exists_holds (h : Reached log) :
    ∃ arena, Journal.Holds log.content log.index arena := by
  induction h with
  | opened opens => exact exists_holds_of_openPath opens
  | performed before performs ih =>
    obtain ⟨arena, hholds⟩ := ih
    exact before.settled.exists_holds_perform hholds performs
  | limited before limit ih => exact ih
  | @removed log before place ih =>
    obtain ⟨arena, hholds⟩ := ih
    refine ⟨arena, ?_⟩
    rcases before.settled.afterRemoval_cases place with ⟨at_, hroot, hafter⟩ | hafter
    · rw [hafter, content_put hroot]
      exact hholds
    · rw [hafter]
      exact hholds

end FileLog

theorem FileLog.Reached.of_update_ok {log after : FileLog} (h : Reached log)
    {record : Option Record} {changes : List Change} {given : Record}
    (hupdate : log.update record changes = (.ok given, after)) :
    Record.claim log.count record = .ok given ∧ Reached after ∧
      ∀ other, after.changes (some other)
        = if other = given then .ok changes else log.changes (some other) := by
  obtain ⟨arena, hholds⟩ := h.exists_holds
  rcases h.settled.update_cases hholds record changes with ⟨error, hrefused⟩ |
    ⟨next, made, hmade, hclaim, hafter⟩
  · rw [hrefused] at hupdate
    cases hupdate
  · have hperform : log.perform (.update record changes) = (.given (.ok next), some made) := by
      simp only [FileLog.perform, hmade]
    rw [hmade] at hupdate
    cases hupdate
    refine ⟨?_, .performed h hperform, ?_⟩
    · rw [show log.count = _ from hholds.count]
      exact hclaim
    · intro other
      rw [changes_eq_of_holds hafter, changes_eq_of_holds hholds]
      exact Arena.changes_put (Record.index_le_of_claim hclaim) other

instance : IntactLog FileLog where
  Intact := FileLog.Reached
  of_update_ok intact taken := intact.of_update_ok taken
  eq_of_update_error intact refused := intact.settled.eq_of_update_error refused

end LessonHistory
