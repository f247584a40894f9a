-- Volumes without links. There steps lead to one place only, whatever stands on the volume; so of
-- an operation it can be told from its path which places it can touch. Making directories touches
-- only places on the way where nothing was, and writing or removing a file only the place of the file.
import LessonHistory.Proofs.Volume.Below

namespace LessonHistory

namespace Route

/-! ## Where steps lead -/

/-- The place that steps lead to, if they lead anywhere. -/
def follow (directory : Place) : List Step → Place
  | [] => directory
  | .up :: rest => follow directory.dropLast rest
  | .name name :: rest => follow (directory ++ [name]) rest

theorem follow_append (directory : Place) (front back : List Step) :
    follow directory (front ++ back) = follow (follow directory front) back := by
  induction front generalizing directory with
  | nil => rfl
  | cons step rest ih =>
    cases step with
    | up => exact ih _
    | name name => exact ih _

theorem follow_names (directory : Place) (names : List String) :
    follow directory (names.map .name) = directory ++ names := by
  induction names generalizing directory with
  | nil => exact (List.append_nil directory).symm
  | cons name rest ih =>
    rw [List.map_cons, follow, ih, List.append_assoc]
    rfl

theorem prefix_follow {steps : List Step} (h : Step.up ∉ steps) (directory : Place) :
    directory <+: follow directory steps := by
  induction steps generalizing directory with
  | nil => exact List.prefix_rfl
  | cons step rest ih =>
    rw [List.mem_cons, not_or] at h
    cases step with
    | up => exact absurd rfl h.1
    | name name => exact (List.prefix_append directory [name]).trans (ih h.2 _)

/-- A place that some of the steps, from the first on, lead to. -/
def OnWay (directory : Place) (steps : List Step) (place : Place) : Prop :=
  ∃ front, front <+: steps ∧ place = follow directory front

/-- A way that does not lead up passes only the place at its end and those above it. -/
theorem OnWay.above {directory place : Place} {steps : List Step} (h : OnWay directory steps place)
    (hdown : Step.up ∉ steps) : place <+: follow directory steps := by
  obtain ⟨front, ⟨back, rfl⟩, rfl⟩ := h
  rw [follow_append]
  apply prefix_follow
  intro hup
  exact hdown (List.mem_append_right front hup)

/-- A way that goes on by names passes places of its first part, and places below its end. -/
theorem OnWay.append_cases {directory place : Place} {steps : List Step} {names : List String}
    (h : OnWay directory (steps ++ names.map .name) place) :
    OnWay directory steps place ∨
      ∃ front, front ≠ [] ∧ place = follow directory steps ++ front := by
  obtain ⟨part, hpart, rfl⟩ := h
  rcases Volume.prefix_append_cases hpart with hin | ⟨rest, hrest, rfl⟩
  · exact .inl ⟨part, hin, rfl⟩
  · obtain ⟨front, -, rfl⟩ := List.prefix_map_iff.1 ((List.prefix_append_right_inj steps).1 hpart)
    refine .inr ⟨front, ?_, ?_⟩
    · rintro rfl
      exact hrest rfl
    · rw [follow_append, follow_names]

end Route

namespace Volume

variable {volume middle after : Volume} {directory place : Place} {path name : String}

/-! ## Finding the way without links -/

theorem child_of_links_eq_nil (h : volume.links = []) (directory : Place) (name : String) :
    volume.child directory name = directory ++ [name] := by
  unfold child
  rw [h]
  rfl

theorem eq_follow_of_enter (h : volume.links = []) {steps : List Step}
    (henter : volume.enter directory steps = .ok place) : place = Route.follow directory steps := by
  induction steps generalizing directory with
  | nil =>
    cases henter
    rfl
  | cons step rest ih =>
    cases step with
    | up => exact ih henter
    | name name =>
      obtain ⟨-, hrest⟩ := enter_name_eq_ok_iff.1 henter
      rw [child_of_links_eq_nil h] at hrest
      exact ih hrest

theorem Leads.child_eq_follow (h : volume.links = []) (hleads : volume.Leads path directory name) :
    volume.child directory name
      = Route.follow (volume.start (Route.ofText path)) (Route.ofText path).steps := by
  obtain ⟨-, hlast, henter⟩ := locate_eq_named_iff.1 hleads.located
  rw [child_of_links_eq_nil h, eq_follow_of_enter h henter]
  obtain ⟨front, hsteps⟩ := List.getLast?_eq_some_iff.1 hlast
  rw [hsteps, List.dropLast_concat, Route.follow_append]
  rfl

/-! ## Directories that are made on a way -/

/-- In a region nothing is new but directories, at some of the given places. -/
structure OnlyMade (region places : Place → Prop) (volume after : Volume) : Prop where
  same : after = { volume with nodes := after.nodes }
  made : ∀ place, region place → after.get? place = volume.get? place ∨
    places place ∧ volume.get? place = none ∧ after.get? place = some .directory

variable {region places : Place → Prop}

theorem OnlyMade.refl (region places : Place → Prop) (volume : Volume) :
    volume.OnlyMade region places volume := ⟨rfl, fun _ _ => .inl rfl⟩

theorem OnlyMade.trans (h : volume.OnlyMade region places middle)
    (h' : middle.OnlyMade region places after) : volume.OnlyMade region places after := by
  refine ⟨?_, ?_⟩
  · rw [h'.same, h.same]
  · intro place hplace
    rcases h'.made place hplace with hsame | ⟨hon, hnone, hmade⟩
    · rw [hsame]
      exact h.made place hplace
    · rcases h.made place hplace with hsame | ⟨-, -, hdirectory⟩
      · exact .inr ⟨hon, hsame ▸ hnone, hmade⟩
      · rw [hnone] at hdirectory
        cases hdirectory

theorem OnlyMade.put (h : volume.OnlyMade region places middle) (hplace : ¬region place) (node : Node) :
    volume.OnlyMade region places (middle.put place node) := by
  refine ⟨?_, ?_⟩
  · unfold Volume.put
    rw [h.same]
  · intro other hother
    rw [get?_put_of_ne]
    · exact h.made other hother
    · rintro rfl
      exact hplace hother

theorem OnlyMade.remove (h : volume.OnlyMade region places middle) (hlinks : volume.links = [])
    (hplace : ¬region place) : volume.OnlyMade region places (middle.remove place) := by
  refine ⟨?_, ?_⟩
  · unfold Volume.remove
    rw [h.same, hlinks]
    rfl
  · intro other hother
    rw [get?_remove_of_ne]
    · exact h.made other hother
    · rintro rfl
      exact hplace hother

theorem OnlyMade.mono (h : volume.OnlyMade region places after) {region' places' : Place → Prop}
    (hregion : ∀ place, region' place → region place)
    (hplaces : ∀ place, region' place → places place → places' place) :
    volume.OnlyMade region' places' after := by
  refine ⟨h.same, ?_⟩
  intro place hplace
  rcases h.made place (hregion place hplace) with hsame | ⟨hon, hmade⟩
  · exact .inl hsame
  · exact .inr ⟨hplaces place hplace hon, hmade⟩

theorem OnlyMade.links_eq (h : volume.OnlyMade region places after) : after.links = volume.links := by
  rw [h.same]

theorem OnlyMade.start_eq (h : volume.OnlyMade region places after) (route : Route) :
    after.start route = volume.start route := by
  unfold start
  rw [h.same]

/-- What can be said of making directories on a volume without links. -/
def OnlyMadeUnlinked (places : Place → Prop) (volume after : Volume) : Prop :=
  volume.links = [] → volume.OnlyMade (fun _ => True) places after

instance (places : Place → Prop) : IsPreorder Volume (OnlyMadeUnlinked places) where
  refl volume _ := .refl _ places volume
  trans _ _ _ h h' hlinks := (h hlinks).trans (h' ((h hlinks).links_eq.trans hlinks))

end Volume

namespace Disk

variable {volume : Volume} {path : String} {directory : Place} {steps : List Step}

/-- A directory is made where the steps lead, and nowhere else. -/
theorem leaves_makeDirectory_of_prefix {front : List Step} (hfront : front <+: steps) :
    Leaves (Volume.OnlyMadeUnlinked (Route.OnWay directory steps)) (makeDirectory directory front) := by
  intro volume hlinks
  have hsame := Volume.OnlyMade.refl (fun _ => True) (Route.OnWay directory steps) volume
  rcases List.eq_nil_or_concat front with rfl | ⟨before, last, hlast⟩
  · exact hsame
  rw [List.concat_eq_append] at hlast
  subst hlast
  cases last with
  | up =>
    unfold makeDirectory
    rw [run_bind, run_look]
    unfold Volume.target
    rw [List.getLast?_concat]
    cases volume.enter directory (before ++ [.up]) with
    | error fault => exact hsame
    | ok place => exact hsame
  | name name =>
    cases henter : volume.enter directory before with
    | error fault =>
      rw [run_makeDirectory_of_error henter]
      exact hsame
    | ok parent =>
      rw [run_makeDirectory_of_ok henter]
      rcases hentry : volume.entry parent name with fault | _ | node
      · exact hsame
      · simp only
        rw [run_make]
        split
        · exact hsame
        · refine ⟨rfl, ?_⟩
          intro place _
          by_cases hplace : place = parent ++ [name]
          · subst hplace
            obtain ⟨-, hnone⟩ := Volume.entry_eq_ok_iff.1 hentry
            rw [Volume.child_of_links_eq_nil hlinks] at hnone
            refine .inr ⟨⟨_, hfront, ?_⟩, hnone, Volume.get?_put_self (by simp) _ _⟩
            rw [Route.follow_append, ← Volume.eq_follow_of_enter hlinks henter]
            rfl
          · exact .inl (Volume.get?_put_of_ne hplace _ _)
      · exact hsame

/-- The directories that are made for a path are on the way to it. -/
theorem onlyMade_makeParents (hlinks : volume.links = []) (h : (Route.ofText path).steps ≠ []) :
    volume.OnlyMade (fun _ => True)
      (Route.OnWay (volume.start (Route.ofText path)) (Route.ofText path).steps.dropLast)
      ((makeParents path).run volume).2 := by
  rcases run_makeParents_cases h volume with ⟨fault, -, -, hrun⟩ | hrun
  · rw [hrun]
    exact .refl _ _ volume
  · rw [hrun]
    exact leaves_makeDirectories (fun _ => leaves_makeDirectory_of_prefix) volume hlinks

/-! ## One file -/

/-- A file is not touched, or it is written, or only its beginning is. -/
theorem run_writeFile_cases (hlinks : volume.links = []) (path : String) (data : List UInt8) :
    let place := Route.follow (volume.start (Route.ofText path)) (Route.ofText path).steps
    (∃ fault, (writeFile path data).run volume = (.error fault, volume)) ∨
      volume.get? place ≠ some .directory ∧
        ((writeFile path data).run volume = (.ok (), volume.put place (.file data)) ∨
          ∃ k < data.length, (writeFile path data).run volume
            = (.error .fileTooLarge, volume.put place (.file (data.take k)))) := by
  intro place
  unfold writeFile
  rcases hopen : (openFile path).run volume with ⟨fault | found, middle⟩
  · obtain rfl := eq_of_run_openFile_error hopen
    refine .inl ⟨fault, ?_⟩
    rw [run_bind, hopen]
  · obtain ⟨directory, name, hleads, hchild, hwhere⟩ := leads_of_run_openFile hopen
    obtain rfl : found = place := hchild.trans (hleads.child_eq_follow hlinks)
    refine .inr ⟨?_, ?_⟩
    · rcases hwhere with ⟨-, content, hcontent⟩ | ⟨hnone, -⟩
      · rw [Volume.content?_eq_some_iff.1 hcontent]
        exact nofun
      · rw [hnone]
        exact nofun
    · have hfill : (openFile path >>= fun place => fill place data).run volume
          = ((Content.write volume.sizeLimit 0 data []).1,
            volume.put place (.file (Content.write volume.sizeLimit 0 data []).2)) := by
        rw [run_bind_of_ok hopen, run_fill]
        rcases hwhere with ⟨rfl, -⟩ | ⟨-, rfl⟩
        · rfl
        · rw [Volume.put_put]
          rfl
      rcases Content.write_nil_cases volume.sizeLimit data with hwrite | ⟨k, hk, hwrite⟩
      · exact .inl (by rw [hfill, hwrite])
      · exact .inr ⟨k, hk, by rw [hfill, hwrite]⟩

theorem run_removeFile_cases (hlinks : volume.links = []) (path : String) :
    let place := Route.follow (volume.start (Route.ofText path)) (Route.ofText path).steps
    (∃ fault, (removeFile path).run volume = (.error fault, volume)) ∨
      ∃ content, volume.get? place = some (.file content) ∧
        (removeFile path).run volume = (.ok (), volume.remove place) := by
  intro place
  unfold removeFile
  rw [run_bind, run_look]
  cases hparse : Route.parse path with
  | error fault => exact .inl ⟨fault, rfl⟩
  | ok route =>
    obtain ⟨_, _, _, rfl⟩ := Route.parse_eq_ok_iff.1 hparse
    simp only
    rw [run_bind, run_look]
    rcases hlocate : volume.locate (Route.ofText path) with fault | _ | ⟨directory, name⟩
    · exact .inl ⟨fault, rfl⟩
    · exact .inl ⟨.isADirectory, rfl⟩
    simp only
    rw [run_bind, run_look]
    rcases hentry : volume.entry directory name with fault | _ | _ | content
    · exact .inl ⟨fault, rfl⟩
    · exact .inl ⟨.noSuchFile, rfl⟩
    · exact .inl ⟨.isADirectory, rfl⟩
    cases hslash : (Route.ofText path).trailingSlash with
    | true => exact .inl ⟨.notADirectory, rfl⟩
    | false =>
      obtain ⟨hshort, hget⟩ := Volume.entry_eq_ok_iff.1 hentry
      have hleads : volume.Leads path directory name := ⟨hparse, hslash, hlocate, hshort⟩
      have hplace : volume.child directory name = place := hleads.child_eq_follow hlinks
      rw [hplace] at hget
      rw [Volume.child_of_links_eq_nil hlinks] at hplace
      refine .inr ⟨content, hget, ?_⟩
      rw [← hplace]
      rfl

end Disk

end LessonHistory
