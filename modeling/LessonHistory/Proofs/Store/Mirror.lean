-- An open log and the arena that it stands for. The log mirrors the arena as long as its path
-- leads to its file and the content of the file holds what the arena holds; appending,
-- compacting and opening again keep it so.
import LessonHistory.Proofs.Store.LogFile

namespace LessonHistory

/-! ## The entries of an arena -/

namespace Arena

/-- The records from `index` on, each with its changes. -/
def entriesFrom (index : Nat) : List (List Change) → List Journal.Entry
  | [] => []
  | changes :: rest =>
    match Record.ofNat? index with
    | none => []
    | some record => (record, changes) :: entriesFrom (index + 1) rest

/-- The records of an arena in their order, each with its changes. -/
def entries (arena : Arena) : List Journal.Entry := entriesFrom 0 arena.slots

theorem entriesFrom_cons {index : Nat} (h : index < 4294967296) (changes : List Change)
    (rest : List (List Change)) :
    entriesFrom index (changes :: rest) = (⟨index, h⟩, changes) :: entriesFrom (index + 1) rest := by
  rw [entriesFrom, show Record.ofNat? index = some ⟨index, h⟩ from dif_pos h]

theorem length_entriesFrom {index : Nat} {slots : List (List Change)}
    (h : index + slots.length ≤ 4294967296) : (entriesFrom index slots).length = slots.length := by
  induction slots generalizing index with
  | nil => rfl
  | cons changes rest ih =>
    rw [List.length_cons] at h
    rw [entriesFrom_cons (by omega), List.length_cons, List.length_cons, ih (by omega)]

theorem getElem?_of_mem_entriesFrom {index : Nat} {slots : List (List Change)}
    {entry : Journal.Entry} (h : entry ∈ entriesFrom index slots) :
    index ≤ entry.1.index ∧ slots[entry.1.index - index]? = some entry.2 := by
  induction slots generalizing index with
  | nil => cases h
  | cons changes rest ih =>
    by_cases hindex : index < 4294967296
    · rw [entriesFrom_cons hindex] at h
      rcases List.mem_cons.1 h with rfl | h
      · exact ⟨Nat.le_refl index, by simp⟩
      · obtain ⟨hle, hget⟩ := ih h
        refine ⟨by omega, ?_⟩
        rw [show entry.1.index - index = entry.1.index - (index + 1) + 1 by omega,
          List.getElem?_cons_succ]
        exact hget
    · rw [entriesFrom, show Record.ofNat? index = none from dif_neg hindex] at h
      cases h

theorem mapM_range_entriesFrom {read : Nat → Except StoreError Journal.Entry} {index : Nat}
    {slots : List (List Change)} (hbound : index + slots.length ≤ 4294967296)
    (hread : ∀ entry : Journal.Entry, index ≤ entry.1.index →
      slots[entry.1.index - index]? = some entry.2 → read entry.1.index = .ok entry) :
    (List.range' index slots.length).mapM read = .ok (entriesFrom index slots) := by
  induction slots generalizing index with
  | nil => rfl
  | cons changes rest ih =>
    rw [List.length_cons] at hbound
    have hfirst : read index = .ok (⟨index, by omega⟩, changes) :=
      hread (⟨index, by omega⟩, changes) (Nat.le_refl index) (by simp)
    have hrest : (List.range' (index + 1) rest.length).mapM read
        = .ok (entriesFrom (index + 1) rest) := by
      refine ih (by omega) fun entry hle hget => hread entry (by omega) ?_
      rw [show entry.1.index - index = entry.1.index - (index + 1) + 1 by omega,
        List.getElem?_cons_succ]
      exact hget
    rw [List.length_cons, List.range'_succ, List.mapM_cons, hfirst, hrest,
      entriesFrom_cons (by omega)]
    rfl

end Arena

/-! ## Claiming records -/

/-- A record that was given out stays the same, and a new one is the next. -/
theorem Record.claim_cases {count : Nat} {record : Option Record} {given : Record}
    (h : claim count record = .ok given) :
    (record = some given ∧ given.index < count) ∨ (record = none ∧ given.index = count) := by
  unfold claim at h
  split at h
  · split at h
    · rename_i hlt
      cases h
      exact .inl ⟨rfl, hlt⟩
    · cases h
  · split at h
    · rename_i hnat
      cases h
      unfold ofNat? at hnat
      split at hnat
      · cases hnat
        exact .inr ⟨rfl, rfl⟩
      · cases hnat
    · cases h

theorem Record.index_le_of_claim {count : Nat} {record : Option Record} {given : Record}
    (h : claim count record = .ok given) : given.index ≤ count := by
  rcases claim_cases h with ⟨-, hlt⟩ | ⟨-, heq⟩
  · exact Nat.le_of_lt hlt
  · exact Nat.le_of_eq heq

/-! ## Frames behind the content of a log -/

namespace Journal

theorem Holds.append_frameBytes {content : List UInt8} {index : Index} {arena : Arena}
    {entry : Entry} (h : Holds content index arena) (hfits : Fits entry)
    (hrecord : entry.1.index ≤ arena.slots.length) :
    Holds (content ++ frameBytes entry)
      (FileLog.noteAppended index entry.1 (frameBytes entry).length) (arena.put entry) :=
  h.append (whole_frameBytes hfits) (length_frameBytes entry) hrecord

theorem Holds.appendAll {content : List UInt8} {index : Index} {arena : Arena}
    (h : Holds content index arena) (slots : List (List Change))
    (hbound : arena.slots.length + slots.length ≤ 4294967296)
    (hfits : ∀ entry ∈ Arena.entriesFrom arena.slots.length slots, Fits entry) :
    ∃ whole offsets,
      appendAll content (Arena.entriesFrom arena.slots.length slots) = .ok (whole, offsets) ∧
        Holds whole ⟨index.offsets ++ offsets, whole.length⟩ ⟨arena.slots ++ slots⟩ := by
  induction slots generalizing content index arena with
  | nil =>
    refine ⟨content, [], rfl, ?_⟩
    rw [List.append_nil, List.append_nil, ← h.whole]
    exact h
  | cons changes rest ih =>
    rw [List.length_cons] at hbound
    have hindex : arena.slots.length < 4294967296 := by omega
    rw [Arena.entriesFrom_cons hindex] at hfits ⊢
    have hfirst : Fits (⟨arena.slots.length, hindex⟩, changes) := hfits _ List.mem_cons_self
    have hput : arena.put (⟨arena.slots.length, hindex⟩, changes) = ⟨arena.slots ++ [changes]⟩ := by
      unfold Arena.put Arena.store
      rw [if_neg (Nat.lt_irrefl _)]
    have hnext := h.append_frameBytes hfirst (Nat.le_refl _)
    rw [hput] at hnext
    have hlength : (arena.slots ++ [changes]).length = arena.slots.length + 1 := by simp
    obtain ⟨whole, offsets, hall, hholds⟩ := ih hnext (by rw [hlength]; omega) fun entry hentry =>
      hfits entry (List.mem_cons_of_mem _ (hlength ▸ hentry))
    rw [hlength] at hall
    refine ⟨whole, content.length :: offsets, ?_, ?_⟩
    · simp only [Journal.appendAll, frame_eq_ok hfirst, bind, Except.bind, hall]
      rfl
    · have hoffsets : (FileLog.noteAppended index ⟨arena.slots.length, hindex⟩
          (frameBytes (⟨arena.slots.length, hindex⟩, changes)).length).offsets
            = index.offsets ++ [content.length] := by
        unfold FileLog.noteAppended
        rw [if_neg (by rw [h.count]; exact Nat.lt_irrefl _), h.whole]
      rw [hoffsets, List.append_assoc, List.append_assoc] at hholds
      exact hholds

theorem exists_image {arena : Arena} (hbound : arena.slots.length < 4294967296)
    (hfits : ∀ entry ∈ arena.entries, Fits entry) :
    ∃ bytes offsets, image arena.entries = .ok (bytes, offsets) ∧
      Holds bytes ⟨offsets, bytes.length⟩ arena := by
  refine holds_header.appendAll arena.slots ?_ hfits
  show 0 + arena.slots.length ≤ _
  omega

end Journal

namespace FileLog

/-! ## Logs and arenas -/

/-- The path of the log leads to its file, and the file holds what the arena holds. -/
structure Mirrors (log : FileLog) (directory : Place) (name : String) (arena : Arena) : Prop where
  leads : log.volume.Leads log.path directory name
  linksEnd : log.volume.LinksEnd
  file : log.file = .linked (log.volume.child directory name)
  stored : log.volume.content? (log.volume.child directory name) = some log.content
  holds : Journal.Holds log.content log.index arena
  fit : ∀ entry : Journal.Entry, arena.slots[entry.1.index]? = some entry.2 → Journal.Fits entry

section

variable {log : FileLog} {directory : Place} {name : String} {arena : Arena}

theorem Mirrors.ne_directory (h : log.Mirrors directory name arena) :
    log.volume.get? (log.volume.child directory name) ≠ some .directory := by
  rw [Volume.content?_eq_some_iff.1 h.stored]
  exact nofun

theorem Mirrors.ne_root (h : log.Mirrors directory name arena) :
    log.volume.child directory name ≠ [] := Volume.ne_root_of_content? h.stored

theorem Mirrors.count_eq (h : log.Mirrors directory name arena) :
    log.count = arena.slots.length := h.holds.count

/-! ## Reading -/

theorem changes_eq_of_holds (h : Journal.Holds log.content log.index arena)
    (record : Option Record) : log.changes record = arena.changes record := by
  cases record with
  | none => rfl
  | some record =>
    unfold FileLog.changes changesOf Arena.changes
    simp only
    cases hslot : arena.slots[record.index]? with
    | none =>
      rw [List.getElem?_eq_none_iff, ← h.count] at hslot
      rw [List.getElem?_eq_none hslot]
    | some changes =>
      obtain ⟨offset, found, length, hoffset, hindex, hwhole⟩ := h.stored _ _ hslot
      rw [Record.index_inj.1 hindex] at hwhole
      rw [hoffset]
      simp only
      rw [Journal.changesAt_of_whole hwhole]

theorem entries_eq_of_holds (h : Journal.Holds log.content log.index arena) :
    log.entries = if arena.slots.length < 4294967296 then .ok arena.entries
      else .error .recordSpaceExhausted := by
  have hcount : log.count = arena.slots.length := h.count
  unfold FileLog.entries
  rw [hcount, List.range_eq_range']
  split
  · apply Arena.mapM_range_entriesFrom (by omega)
    intro entry _ hget
    have hrecord : Record.ofNat? entry.1.index = some entry.1 := dif_pos entry.1.index_lt
    have hchanges : log.changesOf entry.1 = .ok entry.2 := by
      refine (changes_eq_of_holds h (some entry.1)).trans ?_
      unfold Arena.changes
      rw [Nat.sub_zero] at hget
      simp only [hget]
    simp only [hrecord, hchanges]
    rfl
  · rfl

theorem Mirrors.changes_eq (h : log.Mirrors directory name arena) (record : Option Record) :
    log.changes record = arena.changes record := changes_eq_of_holds h.holds record

theorem Mirrors.entries_eq (h : log.Mirrors directory name arena)
    (hbound : arena.slots.length < 4294967296) : log.entries = .ok arena.entries :=
  (entries_eq_of_holds h.holds).trans (if_pos hbound)

/-! ## Logs with a new content -/

theorem content_put {place : Place} (hplace : place ≠ []) (volume : Volume)
    (content : List UInt8) (path : String) (index : Journal.Index) :
    FileLog.content ⟨volume.put place (.file content), path, .linked place, index⟩ = content := by
  unfold FileLog.content
  simp only
  rw [Volume.content?_put hplace]
  rfl

/-- A log is what it is told to be: a file with the content at the end of its path. -/
theorem mirrors_put {volume : Volume} {path : String} {content : List UInt8} {index : Journal.Index}
    (hleads : volume.Leads path directory name) (hlinks : volume.LinksEnd)
    (hfile : volume.get? (volume.child directory name) ≠ some .directory)
    (hholds : Journal.Holds content index arena)
    (hfit : ∀ entry : Journal.Entry, arena.slots[entry.1.index]? = some entry.2 → Journal.Fits entry) :
    Mirrors ⟨volume.put (volume.child directory name) (.file content), path,
      .linked (volume.child directory name), index⟩ directory name arena := by
  have hroot : volume.child directory name ≠ [] := by
    intro hroot
    rw [hroot] at hfile
    exact hfile volume.get?_root
  have hcontent := content_put hroot volume content path index
  refine ⟨hleads.put hfile content, hlinks, rfl, ?_, ?_, hfit⟩
  · rw [hcontent]
    exact Volume.content?_put hroot volume content
  · rw [hcontent]
    exact hholds

theorem Mirrors.withContent_eq (h : log.Mirrors directory name arena) (content : List UInt8) :
    log.withContent content = ⟨log.volume.put (log.volume.child directory name) (.file content),
      log.path, .linked (log.volume.child directory name), log.index⟩ := by
  unfold FileLog.withContent
  rcases log with ⟨volume, path, file, index⟩
  obtain rfl : file = .linked (volume.child directory name) := h.file
  rfl

/-! ## Appending -/

theorem fit_put {entry : Journal.Entry} (hentry : Journal.Fits entry)
    (hrecord : entry.1.index ≤ arena.slots.length)
    (h : ∀ entry : Journal.Entry, arena.slots[entry.1.index]? = some entry.2 → Journal.Fits entry)
    (other : Journal.Entry) (hother : (arena.put entry).slots[other.1.index]? = some other.2) :
    Journal.Fits other := by
  rw [Arena.getElem?_put hrecord] at hother
  split at hother
  · rename_i hsame
    have heq : other = entry := Prod.ext (Record.index_inj.1 hsame) (Option.some.inj hother).symm
    rw [heq]
    exact hentry
  · exact h other hother

/-- However much a failed write has put behind the content, nothing of it stays. -/
theorem writeAtFinish_of_error (h : log.index.finish = log.content.length)
    {bytes written : List UInt8} {fault : Fault}
    (hwrite : Content.write log.volume.sizeLimit log.content.length bytes log.content
      = (.error fault, written)) :
    log.writeAtFinish bytes = (.error fault, log.withContent log.content, []) := by
  have hcut := Content.setLength_write log.volume.sizeLimit bytes log.content
  rw [hwrite] at hcut
  unfold writeAtFinish
  rw [h]
  simp only [hwrite, hcut]

/-- A write fails under a size limit only, and then leaves the file as it was. Otherwise it puts
the bytes behind the file. -/
theorem writeAtFinish_cases (h : log.index.finish = log.content.length) (bytes : List UInt8) :
    (log.volume.sizeLimit ≠ none ∧
      ∃ fault, log.writeAtFinish bytes = (.error fault, log.withContent log.content, [])) ∨
    log.writeAtFinish bytes = (.ok (), log.withContent (log.content ++ bytes), []) := by
  rcases hwrite : Content.write log.volume.sizeLimit log.content.length bytes log.content
    with ⟨fault | done, content⟩
  · refine .inl ⟨?_, fault, writeAtFinish_of_error h hwrite⟩
    intro hlimit
    rw [hlimit, Content.write_unlimited] at hwrite
    cases hwrite
  · unfold writeAtFinish
    rw [h]
    simp only [hwrite]
    rw [Content.write_length_of_ok hwrite]
    exact .inr rfl

/-- What comes of an append: the record is refused, the entry has no frame, the file cannot
grow and the log still mirrors the arena, or it mirrors the arena with the entry put into it. -/
theorem Mirrors.append_cases (h : log.Mirrors directory name arena) (record : Option Record)
    (changes : List Change) :
    (∃ error, Record.claim arena.slots.length record = .error error ∧
      log.append record changes = (.error error, log, [])) ∨
    (∃ given cause, Record.claim arena.slots.length record = .ok given ∧
      ¬ Journal.Fits (given, changes) ∧
      log.append record changes = (.error (.write (.codec cause)), log, [])) ∨
    (∃ fault next, ¬ log.volume.HasRoom log.path ∧ next.Mirrors directory name arena ∧
      log.append record changes = (.error (.write (.io fault)), next, [])) ∨
    (∃ given next, Record.claim arena.slots.length record = .ok given ∧
      log.append record changes = (.ok given, next, []) ∧
      next.Mirrors directory name (arena.put (given, changes)) ∧
      next.content = log.content ++ Journal.frameBytes (given, changes) ∧
      (log.volume.HasRoom log.path → next.volume.HasRoom next.path)) := by
  unfold append
  rw [h.count_eq]
  cases hclaim : Record.claim arena.slots.length record with
  | error error => exact .inl ⟨error, rfl, rfl⟩
  | ok given =>
    refine .inr ?_
    simp only
    cases hframe : Journal.frame (given, changes) with
    | error cause =>
      refine .inl ⟨given, cause, rfl, ?_, rfl⟩
      intro hfits
      rw [Journal.frame_eq_ok hfits] at hframe
      cases hframe
    | ok bytes =>
      refine .inr ?_
      have hfits := Journal.fits_of_frame_eq_ok hframe
      rw [Journal.frame_eq_ok hfits] at hframe
      cases hframe
      simp only
      rcases log.writeAtFinish_cases h.holds.whole (Journal.frameBytes (given, changes))
        with ⟨hlimit, fault, hwrite⟩ | hwrite
      · rw [hwrite]
        refine .inl ⟨fault, _, fun hroom => hlimit hroom.unlimited, ?_, rfl⟩
        rw [h.withContent_eq]
        exact mirrors_put h.leads h.linksEnd h.ne_directory h.holds h.fit
      · have hrecord := Record.index_le_of_claim hclaim
        have hnext := mirrors_put h.leads h.linksEnd h.ne_directory
          (h.holds.append_frameBytes hfits hrecord) (fit_put hfits hrecord h.fit)
        rw [hwrite, h.withContent_eq]
        refine .inr ⟨given, _, rfl, rfl, hnext, content_put h.ne_root _ _ _ _, ?_⟩
        intro hroom
        exact hroom.of_leads h.leads hnext.leads rfl rfl rfl

/-! ## Compacting -/

theorem Mirrors.image_eq (h : log.Mirrors directory name arena)
    (hbound : arena.slots.length < 4294967296) :
    ∃ bytes offsets, Journal.image arena.entries = .ok (bytes, offsets) ∧
      Journal.Holds bytes ⟨offsets, bytes.length⟩ arena :=
  Journal.exists_image hbound fun entry hentry =>
    h.fit entry (Arena.getElem?_of_mem_entriesFrom hentry).2

/-- A compaction writes one frame for each record into a new file, and fails just when that file
cannot take the place of the old one. -/
theorem Mirrors.compact_eq (h : log.Mirrors directory name arena)
    (hbound : arena.slots.length < 4294967296) {bytes : List UInt8} {offsets : List Nat}
    (himage : Journal.image arena.entries = .ok (bytes, offsets)) :
    log.compact = match (replaceFile log.path bytes).run log.volume with
      | (.error fault, volume) =>
        (.error (.write (.compaction log.path fault)), { log with volume })
      | (.ok place, volume) =>
        (.ok ⟨arena.slots.length, log.content.length, bytes.length⟩,
          ⟨volume, log.path, .linked place, ⟨offsets, bytes.length⟩⟩) := by
  have hlength : arena.entries.length = arena.slots.length := Arena.length_entriesFrom (by omega)
  unfold compact
  rw [h.entries_eq hbound]
  simp only
  rw [himage]
  simp only
  exact hlength ▸ h.holds.whole ▸ rfl

/-- A log whose file is replaced by one with the same entries mirrors the same arena. -/
theorem Mirrors.replaced (h : log.Mirrors directory name arena) {bytes : List UInt8}
    {index : Journal.Index} (hholds : Journal.Holds bytes index arena) :
    Mirrors ⟨log.volume.replace (directory ++ [name]) bytes, log.path, .linked (directory ++ [name]),
      index⟩ directory name arena := by
  have hchild := log.volume.child_replace_self directory name bytes
  have hcontent : FileLog.content ⟨log.volume.replace (directory ++ [name]) bytes, log.path,
      .linked (directory ++ [name]), index⟩ = bytes := content_put (by simp) _ _ _ _
  refine ⟨h.leads.replace h.linksEnd h.ne_directory bytes, h.linksEnd.replace _ _, ?_, ?_, ?_, h.fit⟩
  · rw [hchild]
  · rw [hchild, hcontent]
    exact Volume.content?_replace (by simp) _ _
  · rw [hcontent]
    exact hholds

/-- A compaction either fails where there is no room, or leaves a log that mirrors the same
arena. -/
theorem Mirrors.compact_cases (h : log.Mirrors directory name arena)
    (hbound : arena.slots.length < 4294967296) :
    (∃ fault, ¬ log.volume.HasRoom log.path ∧
      log.compact = (.error (.write (.compaction log.path fault)), log)) ∨
    (∃ stats next, log.compact = (.ok stats, next) ∧ stats.records = arena.slots.length ∧
      next.Mirrors directory name arena ∧
      (log.volume.HasRoom log.path → next.volume.HasRoom next.path)) := by
  obtain ⟨bytes, offsets, himage, hholds⟩ := h.image_eq hbound
  rw [h.compact_eq hbound himage, run_replaceFile_of_leads h.leads h.ne_directory]
  cases hdraft : Route.parse (draftPath log.volume.workingDirectory log.path) with
  | error fault =>
    refine .inl ⟨fault, ?_, rfl⟩
    intro hroom
    obtain ⟨route, hroute⟩ := hroom.draft
    rw [hroute] at hdraft
    cases hdraft
  | ok route =>
    cases hsealed : log.volume.isSealed directory with
    | true =>
      refine .inl ⟨.noSuchFile, ?_, rfl⟩
      intro hroom
      rw [hroom.unsealed _ _ h.leads] at hsealed
      cases hsealed
    | false =>
      simp only [Bool.false_eq_true, if_false]
      cases hwrite : (Content.write log.volume.sizeLimit 0 bytes []).1 with
      | error fault =>
        refine .inl ⟨fault, ?_, rfl⟩
        intro hroom
        rw [hroom.unlimited, show Content.write none 0 bytes [] = _ from
          Content.write_unlimited bytes []] at hwrite
        cases hwrite
      | ok done =>
        have hnext := h.replaced hholds
        exact .inr ⟨_, _, rfl, rfl, hnext,
          fun hroom => hroom.of_leads h.leads hnext.leads rfl rfl rfl⟩

/-! ## Opening -/

theorem recover_of_holds {content : List UInt8} {index : Journal.Index}
    (h : Journal.Holds content index arena) : Journal.recover content = .ok (index, .nothing) := by
  obtain ⟨frames, hframes, _⟩ := Journal.eq_header_append_of_scan h.scanned
  unfold Journal.recover
  rw [if_neg, h.scanned]
  · simp only [h.whole, Nat.lt_irrefl, if_false]
  · rw [hframes, List.length_append]
    omega

theorem openPath_of_leads {volume : Volume} {path : String}
    (hleads : volume.Leads path directory name) {content : List UInt8}
    (hcontent : volume.content? (volume.child directory name) = some content) :
    openPath volume path = openAt volume path (volume.child directory name) := by
  unfold openPath
  simp only
  rw [Disk.run_bind, Disk.run_makeParents_of_leads hleads]
  simp only
  rw [Disk.run_openFile_of_leads hleads hcontent]

theorem openPath_of_damage {volume : Volume} {path : String} (hleads : volume.Leads path directory name)
    {content : List UInt8} (hcontent : volume.content? (volume.child directory name) = some content)
    {offset : Nat} {damage : Damage} (hrecover : Journal.recover content = .error (offset, damage)) :
    openPath volume path = ⟨.error (.corrupt path offset damage), volume, []⟩ := by
  rw [openPath_of_leads hleads hcontent]
  unfold openAt
  simp only [hcontent, Option.getD_some, hrecover]

theorem openPath_of_repair {volume : Volume} {path : String} (hleads : volume.Leads path directory name)
    {content mended : List UInt8}
    (hcontent : volume.content? (volume.child directory name) = some content)
    {index : Journal.Index} {repair : Journal.Repair}
    (hrecover : Journal.recover content = .ok (index, repair))
    (hrepaired : repaired volume.sizeLimit content index repair = (.ok (), mended)) :
    openPath volume path
      = ⟨.ok ⟨volume.put (volume.child directory name) (.file mended), path,
          .linked (volume.child directory name), index⟩,
        volume.put (volume.child directory name) (.file mended),
        repairNotices path content index repair⟩ := by
  rw [openPath_of_leads hleads hcontent]
  unfold openAt
  simp only [hcontent, Option.getD_some, hrecover, hrepaired]

/-- A log that mirrors an arena can be opened again, and then still mirrors it. -/
theorem Mirrors.openPath_eq (h : log.Mirrors directory name arena) :
    ∃ next, openPath log.volume log.path = ⟨.ok next, next.volume, []⟩ ∧
      next.Mirrors directory name arena ∧
      (log.volume.HasRoom log.path → next.volume.HasRoom next.path) := by
  have hnext := mirrors_put h.leads h.linksEnd h.ne_directory h.holds h.fit
  refine ⟨_, ?_, hnext, fun hroom => hroom.of_leads h.leads hnext.leads rfl rfl rfl⟩
  exact openPath_of_repair h.leads h.stored (recover_of_holds h.holds) rfl

theorem eq_header_of_repaired {limit : Option Nat} {content mended : List UInt8}
    {index : Journal.Index} (h : repaired limit content index .header = (.ok (), mended)) :
    mended = Journal.header := by
  have hwrite : Content.write limit ([] : List UInt8).length Journal.header [] = (.ok (), mended) := h
  rw [Content.write_length_of_ok hwrite, List.nil_append]

theorem exists_of_openAt_ok {volume : Volume} {path : String} {place : Place}
    (h : (openAt volume path place).result = .ok log) :
    ∃ index repair mended,
      Journal.recover ((volume.content? place).getD []) = .ok (index, repair) ∧
        repaired volume.sizeLimit ((volume.content? place).getD []) index repair = (.ok (), mended) ∧
        log = ⟨volume.put place (.file mended), path, .linked place, index⟩ := by
  unfold openAt at h
  simp only at h
  split at h
  · cases h
  · rename_i index repair hrecover
    rcases hmended : repaired volume.sizeLimit ((volume.content? place).getD []) index repair
      with ⟨outcome, mended⟩
    simp only [hmended] at h
    cases outcome with
    | error fault => cases h
    | ok done =>
      cases h
      exact ⟨index, repair, mended, hrecover, hmended, rfl⟩

/-- What an opened log was: the path led to a file, which may have been made for it, and the
content of the file was mended. -/
theorem exists_of_openPath_ok {volume : Volume} {path : String}
    (h : (openPath volume path).result = .ok log) :
    ∃ reached directory name content index repair mended,
      Volume.links reached = volume.links ∧ reached.Leads path directory name ∧
      reached.content? (reached.child directory name) = some content ∧
      (volume.content? (reached.child directory name) = none → content = []) ∧
      Journal.recover content = .ok (index, repair) ∧
      repaired reached.sizeLimit content index repair = (.ok (), mended) ∧
      log = ⟨reached.put (reached.child directory name) (.file mended), path,
        .linked (reached.child directory name), index⟩ := by
  unfold openPath at h
  simp only at h
  rcases hreach : (Disk.makeParents path >>= fun _ => Disk.openFile path).run volume
    with ⟨_ | place, reached⟩
  · rw [hreach] at h
    cases h
  rw [hreach] at h
  obtain ⟨_, middle, hparents, hfile⟩ := Disk.exists_of_run_bind_ok hreach
  obtain ⟨hsame, hold⟩ := Disk.noNewFiles_makeParents path volume
  rw [hparents] at hsame hold
  obtain ⟨directory, name, hleads, rfl, hwhere⟩ := Disk.leads_of_run_openFile hfile
  obtain ⟨index, repair, mended, hrecover, hmended, hlog⟩ := exists_of_openAt_ok h
  rcases hwhere with ⟨rfl, content, hcontent⟩ | ⟨hnone, rfl⟩
  · rw [hcontent, Option.getD_some] at hrecover hmended
    refine ⟨reached, directory, name, content, index, repair, mended, hsame, hleads, hcontent, ?_,
      hrecover, hmended, hlog⟩
    -- Making the directories on the way to the file did not make the file.
    intro hnone
    rw [hold _ _ hcontent] at hnone
    cases hnone
  · have hroot : middle.child directory name ≠ [] := by
      intro hroot
      rw [hroot] at hnone
      cases hnone
    have hfile : middle.get? (middle.child directory name) ≠ some .directory := by
      rw [hnone]
      exact nofun
    have hempty := Volume.content?_put hroot middle []
    rw [hempty, Option.getD_some] at hrecover hmended
    exact ⟨middle.put (middle.child directory name) (.file []), directory, name, [], index, repair,
      mended, hsame, hleads.put hfile [], hempty, fun _ => rfl, hrecover, hmended, hlog⟩

theorem mirrors_of_reached {reached : Volume} {path : String} {content mended : List UInt8}
    {index : Journal.Index} (hlinks : reached.LinksEnd) (hleads : reached.Leads path directory name)
    (hcontent : reached.content? (reached.child directory name) = some content)
    (hholds : Journal.Holds mended index arena)
    (hfit : ∀ entry : Journal.Entry, arena.slots[entry.1.index]? = some entry.2 → Journal.Fits entry) :
    Mirrors ⟨reached.put (reached.child directory name) (.file mended), path,
      .linked (reached.child directory name), index⟩ directory name arena := by
  refine mirrors_put hleads hlinks ?_ hholds hfit
  rw [Volume.content?_eq_some_iff.1 hcontent]
  exact nofun

/-- A log that was opened where no file was mirrors the empty arena. -/
theorem mirrors_empty_of_openPath {volume : Volume} {path : String} (hlinks : volume.LinksEnd)
    (hopen : (openPath volume path).result = .ok log)
    (hfresh : ∀ place, log.file = .linked place → volume.content? place = none) :
    log.path = path ∧ log.content = Journal.header ∧
      ∃ directory name, log.Mirrors directory name .empty := by
  obtain ⟨reached, directory, name, content, index, repair, mended, hsame, hleads, hcontent, hnew,
    hrecover, hmended, rfl⟩ := exists_of_openPath_ok hopen
  obtain rfl := hnew (hfresh _ rfl)
  cases hrecover
  obtain rfl := eq_header_of_repaired hmended
  refine ⟨rfl, content_put (Volume.ne_root_of_content? hcontent) _ _ _ _, directory, name, ?_⟩
  apply mirrors_of_reached (hlinks.of_links_eq hsame) hleads hcontent Journal.holds_header
  intro entry hentry
  cases hentry

end

end FileLog

end LessonHistory
