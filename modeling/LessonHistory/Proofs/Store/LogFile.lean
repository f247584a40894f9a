-- The file of an open log: what putting a new file in its place does to it. That turns the path of
-- the log nowhere else, and fails only where the volume has a size limit or no room for a draft.
import LessonHistory.Proofs.Store.Scan
import LessonHistory.Proofs.Volume.Content
import LessonHistory.Proofs.Volume.Reach
import LessonHistory.Store.FileLog

namespace LessonHistory

/-! ## A new file in the place of another -/

namespace Volume

/-- The places that links lead to are no links themselves. -/
def LinksEnd (volume : Volume) : Prop :=
  ∀ link ∈ volume.links, ∀ other ∈ volume.links, link.2 ≠ other.1

theorem LinksEnd.of_links_eq {volume after : Volume} (h : volume.LinksEnd)
    (hsame : after.links = volume.links) : after.LinksEnd := by
  unfold LinksEnd
  rw [hsame]
  exact h

/-- The volume with a new file at a place, where a file or a link to one may have been. -/
def replace (volume : Volume) (place : Place) (content : List UInt8) : Volume :=
  (volume.remove place).put place (.file content)

theorem mem_of_lookup_eq_some {κ ν : Type} [BEq κ] [LawfulBEq κ] [DecidableEq κ]
    {entries : List (κ × ν)} {key : κ} {value : ν} (h : entries.lookup key = some value) :
    (key, value) ∈ entries := by
  induction entries with
  | nil => cases h
  | cons first rest ih =>
    rw [FileState.lookup_entry_cons] at h
    split at h
    · rename_i hkey
      cases h
      rw [hkey]
      exact List.mem_cons_self
    · exact List.mem_cons_of_mem _ (ih h)

theorem lookup_links_replace (volume : Volume) (place : Place) (content : List UInt8)
    (other : Place) : (volume.replace place content).links.lookup other
      = if other = place then none else volume.links.lookup other := by
  show (volume.links.filter (·.1 != place)).lookup other = _
  rw [FileState.lookup_filter_key (· != place)]
  by_cases h : other = place
  · simp [h]
  · simp [h]

theorem child_replace_self (volume : Volume) (directory : Place) (name : String)
    (content : List UInt8) :
    (volume.replace (directory ++ [name]) content).child directory name = directory ++ [name] := by
  unfold child
  rw [lookup_links_replace, if_pos rfl]
  rfl

theorem get?_replace_of_ne {place other : Place} (h : other ≠ place) (volume : Volume)
    (content : List UInt8) : (volume.replace place content).get? other = volume.get? other := by
  unfold replace
  rw [get?_put_of_ne h, get?_remove_of_ne h]

theorem replace_replace (volume : Volume) (place : Place) (content : List UInt8) :
    (volume.replace place content).replace place content = volume.replace place content := by
  unfold replace remove put
  simp

theorem content?_replace {place : Place} (h : place ≠ []) (volume : Volume) (content : List UInt8) :
    (volume.replace place content).content? place = some content := content?_put h _ _

theorem LinksEnd.replace {volume : Volume} (h : volume.LinksEnd) (place : Place)
    (content : List UInt8) : (volume.replace place content).LinksEnd :=
  fun link hlink other hother => h link (List.mem_filter.1 hlink).1 other (List.mem_filter.1 hother).1

/-- A new file at the end of a path turns the path nowhere else. A directory on the way is
neither at the place of the file nor reached through a link there, because a link leads to no
other link. -/
theorem Leads.replace {volume : Volume} {path : String} {directory : Place} {name : String}
    (h : volume.Leads path directory name) (hlinks : volume.LinksEnd)
    (hfile : volume.get? (volume.child directory name) ≠ some .directory) (content : List UInt8) :
    (volume.replace (directory ++ [name]) content).Leads path directory name := by
  refine h.mono rfl ?_
  intro at_ step hget
  have hother : at_ ++ [step] ≠ directory ++ [name] := by
    intro heq
    unfold child at hget hfile
    rw [heq] at hget
    exact hfile hget
  have hchild : (volume.replace (directory ++ [name]) content).child at_ step
      = volume.child at_ step := by
    unfold child
    rw [lookup_links_replace, if_neg hother]
  refine ⟨hchild, ?_⟩
  rw [get?_replace_of_ne ?_]
  · exact hget
  · intro heq
    cases hlink : volume.links.lookup (directory ++ [name]) with
    | none =>
      have hself : volume.child directory name = directory ++ [name] := by
        unfold child
        rw [hlink]
        rfl
      exact hfile (by rw [hself, ← heq]; exact hget)
    | some target =>
      cases hstep : volume.links.lookup (at_ ++ [step]) with
      | none =>
        unfold child at heq
        rw [hstep] at heq
        exact hother heq
      | some middle =>
        unfold child at heq
        rw [hstep] at heq
        exact hlinks _ (mem_of_lookup_eq_some hstep) _ (mem_of_lookup_eq_some hlink) heq

theorem Leads.directory_eq {volume : Volume} {path : String} {directory directory' : Place}
    {name name' : String} (h : volume.Leads path directory name)
    (h' : volume.Leads path directory' name') : directory' = directory := by
  have hboth := h.located.symm.trans h'.located
  cases hboth
  rfl

/-- Nothing stands in the way of writing to the file at a path, nor of putting a new file in its
place: files may grow, and a draft can be made beside the file. -/
structure HasRoom (volume : Volume) (path : String) : Prop where
  unlimited : volume.sizeLimit = none
  draft : ∃ route, Route.parse (FileLog.draftPath volume.workingDirectory path) = .ok route
  unsealed : ∀ directory name, volume.Leads path directory name → volume.isSealed directory = false

theorem HasRoom.of_leads {volume after : Volume} {path : String} {directory : Place}
    {name : String} (h : volume.HasRoom path) (hleads : volume.Leads path directory name)
    (hafter : after.Leads path directory name) (hlimit : after.sizeLimit = volume.sizeLimit)
    (hstart : after.workingDirectory = volume.workingDirectory)
    (hsealed : after.sealedPlaces = volume.sealedPlaces) : after.HasRoom path where
  unlimited := hlimit.trans h.unlimited
  draft := by
    rw [hstart]
    exact h.draft
  unsealed directory' name' hleads' := by
    rw [hafter.directory_eq hleads']
    unfold isSealed
    rw [hsealed]
    exact h.unsealed directory name hleads

/-! ## A draft -/

/-- Nothing has the name: it would be longer than itself. -/
theorem not_mem_of_unusedName (volume : Volume) (directory place : Place)
    (h : place ∈ volume.nodes.map (·.1) ++ volume.links.map (·.1)) :
    place ≠ directory ++ [volume.unusedName] := by
  rintro rfl
  have hname : volume.unusedName
      ∈ (volume.nodes.map (·.1) ++ volume.links.map (·.1)).flatten :=
    List.mem_flatten.2 ⟨_, h, by simp⟩
  have hle : volume.unusedName.toList.length ≤ _ :=
    (List.sublist_flatten_of_mem (List.mem_map_of_mem hname)).length_le
  rw [← List.flatMap_def, unusedName, String.toList_ofList, List.length_replicate] at hle
  omega

theorem remove_put_unused (volume : Volume) (directory : Place) (node : Node) :
    (volume.put (directory ++ [volume.unusedName]) node).remove (directory ++ [volume.unusedName])
      = volume := by
  have hnodes : volume.nodes.filter (·.1 != directory ++ [volume.unusedName]) = volume.nodes := by
    refine List.filter_eq_self.2 fun entry hentry => bne_iff_ne.2 ?_
    exact volume.not_mem_of_unusedName directory entry.1
      (List.mem_append_left _ (List.mem_map_of_mem hentry))
  have hlinks : volume.links.filter (·.1 != directory ++ [volume.unusedName]) = volume.links := by
    refine List.filter_eq_self.2 fun link hlink => bne_iff_ne.2 ?_
    exact volume.not_mem_of_unusedName directory link.1
      (List.mem_append_right _ (List.mem_map_of_mem hlink))
  unfold put remove
  simp [hnodes, hlinks]

end Volume

namespace Disk

theorem run_rename {volume : Volume} {directory : Place} {name : String}
    (hshort : name.utf8ByteSize ≤ Route.maxNameBytes)
    (hfile : volume.get? (volume.child directory name) ≠ some .directory) (place : Place) :
    (rename place directory name).run volume
      = (.ok (directory ++ [name]), (volume.remove place).replace (directory ++ [name])
          ((volume.content? place).getD [])) := by
  have hentry : volume.entry directory name = .ok (volume.get? (volume.child directory name)) :=
    Volume.entry_eq_ok_iff.2 ⟨hshort, rfl⟩
  unfold rename
  rw [run_bind, run_look, hentry]
  rcases hget : volume.get? (volume.child directory name) with _ | _ | content
  · rfl
  · exact absurd hget hfile
  · rfl

theorem eq_of_run_rename_ok {volume after : Volume} {place directory target : Place} {name : String}
    (h : (rename place directory name).run volume = (.ok target, after)) :
    target = directory ++ [name] ∧ after = (volume.remove place).replace (directory ++ [name])
      ((volume.content? place).getD []) := by
  unfold rename at h
  obtain ⟨found, -, h⟩ := exists_of_run_look_bind_ok h
  rcases found with _ | _ | content
  all_goals cases h
  · exact ⟨rfl, rfl⟩
  · exact ⟨rfl, rfl⟩

theorem eq_of_run_rename_error {volume after : Volume} {place directory : Place} {name : String}
    {fault : Fault} (h : (rename place directory name).run volume = (.error fault, after)) :
    after = volume := by
  unfold rename at h
  rw [run_bind, run_look] at h
  rcases hentry : volume.entry directory name with cause | _ | _ | content
  all_goals rw [hentry] at h; cases h
  · rfl
  · rfl

end Disk

namespace FileLog

/-- A draft that cannot be finished keeps its name, with some of the bytes in it. -/
theorem exists_of_run_finishDraft_error {volume after : Volume} {draft directory : Place}
    {bytes : List UInt8} {steps : List Step} {fault : Fault}
    (h : (finishDraft draft bytes directory steps).run volume = (.error fault, after)) :
    ∃ content, after = volume.put draft (.file content) := by
  unfold finishDraft at h
  rw [Disk.run_bind, Disk.run_fill] at h
  refine ⟨(Content.write volume.sizeLimit 0 bytes []).2, ?_⟩
  cases hwrite : (Content.write volume.sizeLimit 0 bytes []).1 with
  | error cause =>
    rw [hwrite] at h
    cases h
    rfl
  | ok done =>
    rw [hwrite] at h
    simp only at h
    split at h
    · exact Disk.eq_of_run_rename_error h
    · cases h
      rfl

/-- A new file that does not come about leaves no trace: its draft is removed. -/
theorem eq_of_run_replaceFile_error {volume after : Volume} {path : String} {bytes : List UInt8}
    {fault : Fault} (h : (replaceFile path bytes).run volume = (.error fault, after)) :
    after = volume := by
  unfold replaceFile at h
  rcases Disk.cases_of_run_look_bind_error h with rfl | ⟨route, -, h⟩
  · rfl
  rcases Disk.cases_of_run_look_bind_error h with rfl | ⟨_, -, h⟩
  · rfl
  rcases Disk.cases_of_run_look_bind_error h with rfl | ⟨directory, -, h⟩
  · rfl
  rw [Disk.run_bind_of_ok (Disk.run_get volume), Disk.run_bind, Disk.run_make] at h
  cases hsealed : volume.isSealed (directory ++ [volume.unusedName]).dropLast with
  | true =>
    rw [hsealed] at h
    cases h
    rfl
  | false =>
    rw [hsealed] at h
    simp only [Bool.false_eq_true, if_false] at h
    rw [Disk.run_tryCatch] at h
    split at h
    · cases h
    · rename_i hfinish
      obtain ⟨content, rfl⟩ := exists_of_run_finishDraft_error hfinish
      cases h
      rw [Volume.put_put]
      exact volume.remove_put_unused directory _

theorem exists_of_run_finishDraft_ok {volume after : Volume} {draft directory place : Place}
    {bytes : List UInt8} {steps : List Step} (hdraft : draft ≠ [])
    (h : (finishDraft draft bytes directory steps).run volume = (.ok place, after)) :
    (Content.write volume.sizeLimit 0 bytes []).1 = .ok () ∧ place ≠ [] ∧
      ∃ before : Volume, after = before.put place (.file bytes) := by
  unfold finishDraft at h
  rw [Disk.run_bind, Disk.run_fill] at h
  rcases hwrite : Content.write volume.sizeLimit 0 bytes [] with ⟨_ | _, content⟩
  · rw [hwrite] at h
    cases h
  have hall : content = bytes := by
    have hwritten : content = [] ++ bytes := Content.write_length_of_ok hwrite
    rwa [List.nil_append] at hwritten
  subst hall
  rw [hwrite] at h
  simp only at h
  split at h
  · obtain ⟨rfl, rfl⟩ := Disk.eq_of_run_rename_ok h
    rw [Volume.content?_put hdraft]
    exact ⟨rfl, by simp, _, rfl⟩
  · cases h

theorem exists_of_run_replaceFile_ok {volume after : Volume} {path : String} {bytes : List UInt8}
    {place : Place} (h : (replaceFile path bytes).run volume = (.ok place, after)) :
    (Content.write volume.sizeLimit 0 bytes []).1 = .ok () ∧ place ≠ [] ∧
      ∃ before : Volume, after = before.put place (.file bytes) := by
  unfold replaceFile at h
  obtain ⟨route, -, h⟩ := Disk.exists_of_run_look_bind_ok h
  obtain ⟨_, -, h⟩ := Disk.exists_of_run_look_bind_ok h
  obtain ⟨directory, -, h⟩ := Disk.exists_of_run_look_bind_ok h
  rw [Disk.run_bind_of_ok (Disk.run_get volume)] at h
  obtain ⟨_, made, hmake, h⟩ := Disk.exists_of_run_bind_ok h
  obtain rfl := Disk.eq_put_of_run_make hmake
  rw [Disk.run_tryCatch] at h
  split at h
  · rename_i hfinish
    cases h
    have hdraft : directory ++ [volume.unusedName] ≠ [] := by simp
    have hdone := exists_of_run_finishDraft_ok hdraft hfinish
    exact hdone
  · cases h

theorem run_finishDraft {volume : Volume} {directory : Place} {name : String} {steps : List Step}
    (hlast : steps.getLast? = some (.name name)) (hshort : name.utf8ByteSize ≤ Route.maxNameBytes)
    (hfile : volume.get? (volume.child directory name) ≠ some .directory) (bytes : List UInt8) :
    (finishDraft (directory ++ [volume.unusedName]) bytes directory steps).run
        (volume.put (directory ++ [volume.unusedName]) (.file []))
      = match (Content.write volume.sizeLimit 0 bytes []).1 with
        | .error fault => (.error fault, volume.put (directory ++ [volume.unusedName])
            (.file (Content.write volume.sizeLimit 0 bytes []).2))
        | .ok () => (.ok (directory ++ [name]), volume.replace (directory ++ [name]) bytes) := by
  have hdraft : directory ++ [volume.unusedName] ≠ [] := by simp
  unfold finishDraft
  have hlimit : (volume.put (directory ++ [volume.unusedName]) (.file [])).sizeLimit
      = volume.sizeLimit := rfl
  rw [Disk.run_bind, Disk.run_fill, Volume.put_put, hlimit]
  rcases hwrite : Content.write volume.sizeLimit 0 bytes [] with ⟨_ | _, content⟩
  · rfl
  · have hall : content = bytes := by
      have hwritten : content = [] ++ bytes := Content.write_length_of_ok hwrite
      rwa [List.nil_append] at hwritten
    subst hall
    simp only [hlast]
    rw [Disk.run_rename hshort, Volume.content?_put hdraft, Volume.remove_put_unused]
    · rfl
    · -- The draft is a file, whatever name it is to get.
      by_cases hsame : volume.child directory name = directory ++ [volume.unusedName]
      · show (volume.put _ _).get? (volume.child directory name) ≠ _
        rw [hsame, Volume.get?_put_self hdraft]
        exact nofun
      · show (volume.put _ _).get? (volume.child directory name) ≠ _
        rw [Volume.get?_put_of_ne hsame]
        exact hfile

/-- A new file comes to the end of its path: where there was a link, the link is gone. -/
theorem run_replaceFile_of_leads {volume : Volume} {path : String} {directory : Place}
    {name : String} (h : volume.Leads path directory name)
    (hfile : volume.get? (volume.child directory name) ≠ some .directory) (bytes : List UInt8) :
    (replaceFile path bytes).run volume
      = match Route.parse (draftPath volume.workingDirectory path) with
        | .error fault => (.error fault, volume)
        | .ok _ =>
          if volume.isSealed directory then (.error .noSuchFile, volume)
          else match (Content.write volume.sizeLimit 0 bytes []).1 with
            | .error fault => (.error fault, volume)
            | .ok () => (.ok (directory ++ [name]), volume.replace (directory ++ [name]) bytes) := by
  obtain ⟨_, hlast, henter⟩ := Volume.locate_eq_named_iff.1 h.located
  unfold replaceFile
  rw [Disk.run_bind, Disk.run_look, h.usable]
  simp only
  rw [Disk.run_bind, Disk.run_look]
  cases Route.parse (draftPath volume.workingDirectory path) with
  | error fault => rfl
  | ok route =>
    simp only
    rw [Disk.run_bind, Disk.run_look, henter]
    simp only
    rw [Disk.run_bind_of_ok (Disk.run_get volume), Disk.run_bind, Disk.run_make,
      List.dropLast_concat]
    cases volume.isSealed directory with
    | true => rfl
    | false =>
      simp only [Bool.false_eq_true, if_false]
      rw [Disk.run_tryCatch, run_finishDraft hlast h.short hfile]
      cases (Content.write volume.sizeLimit 0 bytes []).1 with
      | error fault =>
        simp only
        rw [Disk.run_bind_of_ok (Disk.run_modify _ _), Volume.remove_put_unused]
        rfl
      | ok done => rfl

/-- Where a file could be replaced, it can be replaced by the same bytes again, and that changes
nothing. -/
theorem of_run_replaceFile_of_leads {volume after : Volume} {path : String} {directory place : Place}
    {name : String} (h : volume.Leads path directory name) (hlinks : volume.LinksEnd)
    (hfile : volume.get? (volume.child directory name) ≠ some .directory) {bytes : List UInt8}
    (hreplace : (replaceFile path bytes).run volume = (.ok place, after)) :
    place = directory ++ [name] ∧ after = volume.replace (directory ++ [name]) bytes ∧
      (replaceFile path bytes).run after = (.ok place, after) := by
  rw [run_replaceFile_of_leads h hfile] at hreplace
  cases hdraft : Route.parse (draftPath volume.workingDirectory path) with
  | error fault =>
    rw [hdraft] at hreplace
    cases hreplace
  | ok route =>
    cases hsealed : volume.isSealed directory with
    | true =>
      simp only [hdraft, hsealed, if_true] at hreplace
      cases hreplace
    | false =>
      cases hwrite : (Content.write volume.sizeLimit 0 bytes []).1 with
      | error fault =>
        simp only [hdraft, hsealed, hwrite, Bool.false_eq_true, if_false] at hreplace
        cases hreplace
      | ok done =>
        simp only [hdraft, hsealed, hwrite, Bool.false_eq_true, if_false] at hreplace
        cases hreplace
        refine ⟨rfl, rfl, ?_⟩
        have hdraft' : Route.parse (draftPath (volume.replace (directory ++ [name])
          bytes).workingDirectory path) = .ok route := hdraft
        have hsealed' : (volume.replace (directory ++ [name]) bytes).isSealed directory = false :=
          hsealed
        have hwrite' : (Content.write (volume.replace (directory ++ [name]) bytes).sizeLimit 0 bytes
          []).1 = .ok () := hwrite
        have hfile' : (volume.replace (directory ++ [name]) bytes).get?
            ((volume.replace (directory ++ [name]) bytes).child directory name)
              ≠ some .directory := by
          rw [volume.child_replace_self, Volume.content?_eq_some_iff.1
            (Volume.content?_replace (by simp) volume bytes)]
          exact nofun
        rw [run_replaceFile_of_leads (h.replace hlinks hfile bytes) hfile']
        simp only [hdraft', hsealed', hwrite', Bool.false_eq_true, if_false]
        rw [Volume.replace_replace]

end FileLog

end LessonHistory
