-- The files of a state in a directory of a volume. A change is carried out there just when no file
-- is on the way to its path and no directory stands at it. Removals come after all that is written,
-- so a move from one state to another fails where a path of the one is a directory on the way to a
-- path of the other, though each of them alone could be laid out.
import LessonHistory.Proofs.Lesson.Capture
import LessonHistory.Proofs.Volume.Below
import LessonHistory.Proofs.Wire.RoundTrip
import LessonHistory.Workspace.Directory
import Mathlib.Data.List.Basic

namespace LessonHistory

namespace Route

/-- The path leads through the other one, which then must be a directory. -/
def Under (path other : String) : Prop := names other <+: (names path).dropLast

instance (path other : String) : Decidable (Under path other) :=
  inferInstanceAs (Decidable (_ <+: _))

theorem exists_names (path : String) : ∃ front name, names path = front ++ [name] := by
  rcases List.eq_nil_or_concat (names path) with hnil | ⟨front, name, hnames⟩
  · exact absurd hnil (names_ne_nil path)
  · exact ⟨front, name, by rw [hnames, List.concat_eq_append]⟩

end Route

namespace DirectoryWorkspace

/-! ## States in a directory -/

/-- The path has only names that files can have, and is not too long below the root. -/
structure Usable (root path : String) : Prop where
  named : Route.Named path
  parses : (Route.parse (joinPath root path)).isOk = true

instance (root path : String) : Decidable (Usable root path) :=
  decidable_of_iff (Route.Named path ∧ (Route.parse (joinPath root path)).isOk = true)
    ⟨fun h => ⟨h.1, h.2⟩, fun h => ⟨h.named, h.parses⟩⟩

theorem Usable.parse_eq {root path : String} (h : Usable root path) :
    Route.parse (joinPath root path) = .ok (Route.ofText (joinPath root path)) := by
  have hok := h.parses
  cases hparse : Route.parse (joinPath root path) with
  | error fault =>
    rw [hparse] at hok
    cases hok
  | ok route =>
    obtain ⟨_, _, _, rfl⟩ := Route.parse_eq_ok_iff.1 hparse
    rfl

/-- The workspace is the directory at `base`, and the files in it are those of the state. -/
structure Holds (workspace : DirectoryWorkspace) (base : Place) (state : FileState) : Prop where
  rooted : workspace.volume.enter (workspace.volume.start (Route.ofText workspace.root))
    (Route.ofText workspace.root).steps = .ok base
  orderly : workspace.volume.Orderly base
  unlimited : workspace.volume.sizeLimit = none
  file : ∀ path text, state.get? path = some text →
    workspace.volume.get? (base ++ Route.names path) = some (.file (Wire.textBytes text))
  only : ∀ names content, workspace.volume.get? (base ++ names) = some (.file content) →
    ∃ path, state.contains path = true ∧ Route.names path = names

/-- No file is on the way to the path, and no directory is at its end. -/
def Free (workspace : DirectoryWorkspace) (base : Place) (path : String) : Prop :=
  workspace.volume.NoFileOn base (Route.names path).dropLast ∧
    workspace.volume.get? (base ++ Route.names path) ≠ some .directory

section

variable {workspace : DirectoryWorkspace} {base : Place} {state : FileState} {path : String}

theorem isPlain_of_named (h : Route.Named path) : isPlain path = true := by
  have hidle := @Route.Named.isIdle path h
  unfold Route.Named at h
  unfold isPlain
  cases hsegments : Route.segments path.toList with
  | nil => exact absurd hsegments (Route.segments_ne_nil _)
  | cons first rest =>
    rw [hsegments] at h hidle
    have hfirst := hidle List.mem_cons_self
    have hups : ∀ segment ∈ first :: rest, segment ≠ ['.', '.'] := by
      rintro segment hsegment rfl
      have hstep := (h _ hsegment).1
      cases hstep
    unfold Route.isIdle at hfirst
    simp only [Bool.or_eq_false_iff, decide_eq_false_iff_not] at hfirst
    simpa [hfirst] using hups

theorem resolve_eq (h : Usable workspace.root path) :
    workspace.resolve path = .ok (joinPath workspace.root path) := if_pos (isPlain_of_named h.named)

/-- A path in the directory descends from the directory that any front part of the way to the root
leads to. -/
theorem descends_of_enter {there : List Step} {place : Place} {names : List String}
    (hsteps : (Route.ofText workspace.root).steps = there ++ names.map .name)
    (hthere : workspace.volume.enter (workspace.volume.start (Route.ofText workspace.root)) there
      = .ok place)
    (hshort : ∀ name ∈ names, name.utf8ByteSize ≤ Route.maxNameBytes)
    (husable : Usable workspace.root path) :
    workspace.volume.Descends (joinPath workspace.root path) place (names ++ Route.names path) := by
  have hstart : workspace.volume.start (Route.ofText (joinPath workspace.root path))
      = workspace.volume.start (Route.ofText workspace.root) := by
    unfold Volume.start
    rw [Route.absolute_joinPath husable.named.head_ne]
  refine ⟨husable.parse_eq, Route.trailingSlash_joinPath husable.named _,
    Route.trailingDot_joinPath husable.named _, ⟨there, ?_, ?_⟩, ?_⟩
  · rw [hstart]
    exact hthere
  · rw [Route.steps_joinPath husable.named.head_ne, husable.named.steps_eq, hsteps, List.map_append,
      List.append_assoc]
  · intro name hname
    exact (List.mem_append.1 hname).elim (hshort name) (husable.named.short name)

theorem Holds.descends (h : workspace.Holds base state) (husable : Usable workspace.root path) :
    workspace.volume.Descends (joinPath workspace.root path) base (Route.names path) := by
  have hsteps : (Route.ofText workspace.root).steps
      = (Route.ofText workspace.root).steps ++ ([] : List String).map .name := by simp
  exact descends_of_enter hsteps h.rooted (by simp) husable

theorem Holds.get?_of_under (h : workspace.Holds base state) {other : String}
    (hpath : state.contains path = true) (hunder : Route.Under path other) :
    workspace.volume.get? (base ++ Route.names other) = some .directory := by
  obtain ⟨rest, hrest⟩ := hunder
  obtain ⟨text, htext⟩ := FileState.contains_iff.1 hpath
  obtain ⟨front, name, hnames⟩ := Route.exists_names path
  rw [hnames, List.dropLast_concat] at hrest
  have hjoined : Route.names other ++ (rest ++ [name]) = Route.names path := by
    rw [← List.append_assoc, hrest, hnames]
  apply h.orderly.closed _ (rest ++ [name]) (Route.names_ne_nil other) (by simp)
  rw [hjoined, h.file path text htext]
  exact nofun

theorem Holds.ne_directory (h : workspace.Holds base state) (hpath : state.contains path = true) :
    workspace.volume.get? (base ++ Route.names path) ≠ some .directory := by
  obtain ⟨text, htext⟩ := FileState.contains_iff.1 hpath
  rw [h.file path text htext]
  exact nofun

theorem Holds.not_under (h : workspace.Holds base state) {other : String}
    (hpath : state.contains path = true) (hother : state.contains other = true) :
    ¬ Route.Under path other :=
  fun hunder => h.ne_directory hother (h.get?_of_under hpath hunder)

theorem Holds.get?_of_none (h : workspace.Holds base state) (hnone : state.get? path = none)
    (content : List UInt8) :
    workspace.volume.get? (base ++ Route.names path) ≠ some (.file content) := by
  intro hget
  obtain ⟨other, hother, hnames⟩ := h.only _ content hget
  obtain rfl := Route.names_inj.1 hnames
  rw [FileState.not_contains_iff.2 hnone] at hother
  cases hother

/-! ## One change -/

/-- What a change at a path leaves as it was: no directory goes, and none comes but those on the way
to the path. -/
structure Altered (before after : DirectoryWorkspace) (base : Place) (path : String) : Prop where
  root : after.root = before.root
  stays : ∀ place, before.volume.get? place = some .directory →
    after.volume.get? place = some .directory
  comes : ∀ names, after.volume.get? (base ++ names) = some .directory →
    before.volume.get? (base ++ names) = some .directory ∨ names <+: (Route.names path).dropLast

theorem Altered.refl : Altered workspace workspace base path := ⟨rfl, fun _ h => h, fun _ h => .inl h⟩

variable {front : List String} {name : String}

/-- A text written under a free path, in the directories made for it, is one more file. -/
theorem Holds.write (h : workspace.Holds base state) (hnames : Route.names path = front ++ [name])
    {middle : Volume} (hmiddle : workspace.volume.PavedBy base front middle)
    (hname : workspace.volume.get? (base ++ (front ++ [name])) ≠ some .directory) (text : String) :
    Holds { workspace with
        volume := middle.put (base ++ (front ++ [name])) (.file (Wire.textBytes text)) }
      base (state.insert path text) := by
  have hname' : middle.get? (base ++ (front ++ [name])) ≠ some .directory := by
    rw [hmiddle.get?_end]
    exact hname
  refine ⟨?_, (hmiddle.orderly h.orderly).put_file hmiddle.paved hname' _,
    hmiddle.sizeLimit.trans h.unlimited, ?_, ?_⟩
  · have hstart : middle.start (Route.ofText workspace.root)
        = workspace.volume.start (Route.ofText workspace.root) := by
      unfold Volume.start
      rw [hmiddle.workingDirectory]
    show (middle.put _ _).enter (middle.start (Route.ofText workspace.root)) _ = _
    rw [hstart]
    exact Volume.enter_put hname' _ (hmiddle.enter_eq h.rooted)
  · intro other found hfound
    rw [FileState.get?_insert] at hfound
    by_cases hsame : other = path
    · rw [if_pos hsame] at hfound
      cases hfound
      rw [hsame, hnames]
      exact Volume.get?_put_self (by simp) _ _
    · rw [if_neg hsame] at hfound
      have hold := h.file other found hfound
      show (middle.put _ _).get? _ = _
      rw [Volume.get?_put_of_ne, hmiddle.kept, hold]
      · rw [hold]
        exact nofun
      · intro hplaces
        rw [← hnames] at hplaces
        exact hsame (Route.names_inj.1 (List.append_cancel_left hplaces))
  · intro names content hget
    by_cases hsame : names = front ++ [name]
    · refine ⟨path, ?_, hsame ▸ hnames⟩
      rw [FileState.contains_iff]
      exact ⟨text, by simp⟩
    · have hother : base ++ names ≠ base ++ (front ++ [name]) := fun hplaces =>
        hsame (List.append_cancel_left hplaces)
      replace hget : (middle.put _ _).get? (base ++ names) = some (.file content) := hget
      rw [Volume.get?_put_of_ne hother] at hget
      obtain ⟨other, hcontains, hfound⟩ := h.only names content (hmiddle.file_of_file hget)
      obtain ⟨found, hfound'⟩ := FileState.contains_iff.1 hcontains
      refine ⟨other, ?_, hfound⟩
      rw [FileState.contains_iff, FileState.get?_insert]
      by_cases hpath : other = path
      · exact ⟨text, if_pos hpath⟩
      · exact ⟨found, (if_neg hpath).trans hfound'⟩

/-- The only directories that come are those on the way to the new file. -/
theorem altered_of_write (hnames : Route.names path = front ++ [name]) {middle : Volume}
    (hmiddle : workspace.volume.PavedBy base front middle)
    (hname : workspace.volume.get? (base ++ (front ++ [name])) ≠ some .directory)
    (content : List UInt8) :
    Altered workspace { workspace with
      volume := middle.put (base ++ (front ++ [name])) (.file content) } base path := by
  refine ⟨rfl, ?_, ?_⟩
  · intro place hdirectory
    have hother : place ≠ base ++ (front ++ [name]) := by
      intro hsame
      exact hname (hsame ▸ hdirectory)
    show (middle.put _ _).get? place = _
    rw [Volume.get?_put_of_ne hother, hmiddle.kept]
    · exact hdirectory
    · rw [hdirectory]
      exact nofun
  · intro names hdirectory
    have hother : base ++ names ≠ base ++ (front ++ [name]) := by
      intro hsame
      replace hdirectory : (middle.put _ _).get? (base ++ names) = some .directory := hdirectory
      rw [hsame, Volume.get?_put_self (by simp)] at hdirectory
      cases hdirectory
    replace hdirectory : (middle.put _ _).get? (base ++ names) = some .directory := hdirectory
    rw [Volume.get?_put_of_ne hother] at hdirectory
    rw [hnames, List.dropLast_concat]
    exact hmiddle.directory_cases hdirectory

theorem Holds.remove (h : workspace.Holds base state) (hnames : Route.names path = front ++ [name])
    {content : List UInt8}
    (hfile : workspace.volume.get? (base ++ (front ++ [name])) = some (.file content)) :
    Holds { workspace with volume := workspace.volume.remove (base ++ (front ++ [name])) }
      base (state.erase path) := by
  have hname : workspace.volume.get? (base ++ (front ++ [name])) ≠ some .directory := by
    rw [hfile]
    exact nofun
  have hlink : workspace.volume.links.lookup (base ++ (front ++ [name])) = none :=
    h.orderly.unlinked _ (by simp)
  refine ⟨Volume.enter_remove hname hlink h.rooted, h.orderly.remove_file hfile, h.unlimited, ?_, ?_⟩
  · intro other found hfound
    rw [FileState.get?_erase] at hfound
    by_cases hsame : other = path
    · rw [if_pos hsame] at hfound
      cases hfound
    · rw [if_neg hsame] at hfound
      rw [Volume.get?_remove_of_ne]
      · exact h.file other found hfound
      · intro hplaces
        rw [← hnames] at hplaces
        exact hsame (Route.names_inj.1 (List.append_cancel_left hplaces))
  · intro names found hget
    have hother : base ++ names ≠ base ++ (front ++ [name]) := by
      intro hsame
      rw [hsame, Volume.get?_remove_self (by simp)] at hget
      cases hget
    rw [Volume.get?_remove_of_ne hother] at hget
    obtain ⟨other, hcontains, hfound⟩ := h.only names found hget
    refine ⟨other, ?_, hfound⟩
    rw [FileState.contains_iff] at hcontains ⊢
    rw [FileState.get?_erase, if_neg]
    · exact hcontains
    · rintro rfl
      rw [← hfound, hnames] at hother
      exact hother rfl

/-- No directory comes or goes with a file that is removed. -/
theorem altered_of_remove {content : List UInt8}
    (hfile : workspace.volume.get? (base ++ (front ++ [name])) = some (.file content)) :
    Altered workspace { workspace with volume := workspace.volume.remove (base ++ (front ++ [name])) }
      base path := by
  refine ⟨rfl, ?_, ?_⟩
  · intro place hdirectory
    rw [Volume.get?_remove_of_ne]
    · exact hdirectory
    · rintro rfl
      rw [hfile] at hdirectory
      cases hdirectory
  · intro names hdirectory
    refine .inl ?_
    rw [Volume.get?_remove_of_ne] at hdirectory
    · exact hdirectory
    · intro hsame
      rw [hsame, Volume.get?_remove_self (by simp)] at hdirectory
      cases hdirectory

theorem exists_run_removeIfThere {volume : Volume} {full : String}
    (h : volume.Descends full base (front ++ [name])) (horderly : volume.Orderly base)
    (hfree : volume.NoFileOn base front)
    (hname : volume.get? (base ++ (front ++ [name])) ≠ some .directory) :
    ((removeIfThere full).run volume = (.ok (), volume) ∧
      volume.get? (base ++ (front ++ [name])) = none) ∨
    ((removeIfThere full).run volume = (.ok (), volume.remove (base ++ (front ++ [name]))) ∧
      ∃ content, volume.get? (base ++ (front ++ [name])) = some (.file content)) := by
  unfold removeIfThere
  rw [Disk.run_tryCatch]
  rcases h.find_cases horderly hfree with ⟨hleads, -⟩ | ⟨hlocate, hnone⟩
  · rw [Disk.run_removeFile_of_leads hleads, horderly.child_eq, List.append_assoc]
    rcases hget : volume.get? (base ++ (front ++ [name])) with _ | _ | content
    · exact .inl ⟨rfl, rfl⟩
    · exact absurd hget hname
    · exact .inr ⟨rfl, content, rfl⟩
  · rw [Disk.run_removeFile_of_error h.usable hlocate]
    exact .inl ⟨rfl, hnone⟩

theorem exists_run_removeIfThere_error {volume : Volume} {full : String}
    (h : volume.Descends full base (front ++ [name])) (horderly : volume.Orderly base)
    (hblocked : ¬ (volume.NoFileOn base front ∧
      volume.get? (base ++ (front ++ [name])) ≠ some .directory)) :
    ∃ fault, (removeIfThere full).run volume = (.error fault, volume) := by
  unfold removeIfThere
  rw [Disk.run_tryCatch]
  rcases h.blocked_cases horderly hblocked with ⟨hleads, hdirectory⟩ | ⟨-, hlocate⟩
  · rw [Disk.run_removeFile_of_leads hleads, hdirectory]
    exact ⟨.isADirectory, rfl⟩
  · rw [Disk.run_removeFile_of_error h.usable hlocate]
    exact ⟨.notADirectory, rfl⟩

/-- A change is carried out at a free path, and at any other nothing is done. -/
theorem Holds.applyChange_cases (h : workspace.Holds base state) {change : Change}
    (husable : Usable workspace.root change.path) :
    (workspace.Free base change.path ∧ ∃ next, workspace.applyChange change = (.ok (), next) ∧
      next.Holds base (change.apply state) ∧ Altered workspace next base change.path) ∨
    (¬ workspace.Free base change.path ∧
      ∃ error, workspace.applyChange change = (.error error, workspace)) := by
  obtain ⟨front, name, hnames⟩ := Route.exists_names change.path
  have hdescends := h.descends husable
  have hresolve := resolve_eq husable
  unfold Free applyChange Change.apply
  rw [hnames] at hdescends ⊢
  rw [hresolve, List.dropLast_concat]
  by_cases hfree : workspace.volume.NoFileOn base front ∧
      workspace.volume.get? (base ++ (front ++ [name])) ≠ some .directory
  · refine .inl ⟨hfree, ?_⟩
    obtain ⟨hway, hname⟩ := hfree
    cases change.text? with
    | some text =>
      obtain ⟨middle, hmiddle, hrun⟩ :=
        Disk.exists_run_write hdescends h.orderly h.unlimited hway hname (Wire.textBytes text)
      have hwrite : (writeText (joinPath workspace.root change.path) text).run workspace.volume
        = _ := hrun
      simp only [hwrite]
      exact ⟨_, rfl, h.write hnames hmiddle hname text, altered_of_write hnames hmiddle hname _⟩
    | none =>
      rcases exists_run_removeIfThere hdescends h.orderly hway hname with ⟨hrun, hnone⟩ |
        ⟨hrun, content, hfile⟩
      · have hstate : state.erase change.path = state := by
          ext1 other
          rw [FileState.get?_erase]
          by_cases hsame : other = change.path
          · rw [if_pos hsame, hsame]
            cases hget : state.get? change.path with
            | none => rfl
            | some text =>
              rw [← hnames, h.file _ _ hget] at hnone
              cases hnone
          · rw [if_neg hsame]
        simp only [hrun, hstate]
        exact ⟨workspace, rfl, h, .refl⟩
      · simp only [hrun]
        exact ⟨_, rfl, h.remove hnames hfile, altered_of_remove hfile⟩
  · refine .inr ⟨hfree, ?_⟩
    cases change.text? with
    | some text =>
      obtain ⟨fault, hrun⟩ :=
        Disk.exists_run_write_error hdescends h.orderly hfree (Wire.textBytes text)
      have hwrite : (writeText (joinPath workspace.root change.path) text).run workspace.volume
        = _ := hrun
      simp only [hwrite]
      exact ⟨_, rfl⟩
    | none =>
      obtain ⟨fault, hrun⟩ := exists_run_removeIfThere_error hdescends h.orderly hfree
      simp only [hrun]
      exact ⟨_, rfl⟩

/-! ## One change after the other -/

/-- Paths that can all be files of one directory: none is below another, and none is a directory. -/
structure Family (workspace : DirectoryWorkspace) (base : Place) (paths : List String) : Prop where
  usable : ∀ path ∈ paths, Usable workspace.root path
  apart : ∀ path ∈ paths, ∀ other ∈ paths, ¬ Route.Under path other
  vacant : ∀ path ∈ paths, workspace.volume.get? (base ++ Route.names path) ≠ some .directory

variable {next : DirectoryWorkspace} {paths : List String} {changes : List Change}

theorem Family.free (h : workspace.Family base paths) (hstate : workspace.Holds base state)
    (hsome : ∀ other, state.contains other = true → other ∈ paths) (hpath : path ∈ paths) :
    workspace.Free base path := by
  refine ⟨?_, h.vacant path hpath⟩
  intro front hfront hpart content hget
  obtain ⟨other, hother, rfl⟩ := hstate.only front content hget
  exact h.apart path hpath other (hsome other hother) hpart

theorem Family.altered (h : workspace.Family base paths) (hpath : path ∈ paths)
    (haltered : Altered workspace next base path) : next.Family base paths where
  usable := by
    rw [haltered.root]
    exact h.usable
  apart := h.apart
  vacant other hother hdirectory := by
    rcases haltered.comes _ hdirectory with hold | hunder
    · exact h.vacant other hother hold
    · exact h.apart path hpath other hother hunder

/-- Whatever is changed at such paths is carried out as on the state. -/
theorem Holds.exists_apply (h : workspace.Holds base state) (hfamily : workspace.Family base paths)
    (hsome : ∀ other, state.contains other = true → other ∈ paths)
    (hchanges : ∀ change ∈ changes, change.path ∈ paths) :
    ∃ next, workspace.apply changes = (.ok (), next) ∧ next.Holds base (state.replay changes) ∧
      next.Family base paths ∧
      ∀ other, (state.replay changes).contains other = true → other ∈ paths := by
  induction changes generalizing workspace state with
  | nil => exact ⟨workspace, rfl, h, hfamily, hsome⟩
  | cons change rest ih =>
    have hpath := hchanges change List.mem_cons_self
    rcases h.applyChange_cases (hfamily.usable _ hpath) with ⟨-, middle, hrun, hmiddle, haltered⟩ |
      ⟨hblocked, -⟩
    · have hsome' : ∀ other, (change.apply state).contains other = true → other ∈ paths := by
        intro other hother
        rw [FileState.contains_iff, FileState.get?_apply] at hother
        by_cases hsame : other = change.path
        · rw [hsame]
          exact hpath
        · rw [if_neg hsame] at hother
          exact hsome other (FileState.contains_iff.2 hother)
      obtain ⟨next, happly, hnext⟩ := ih hmiddle (hfamily.altered hpath haltered) hsome'
        fun later hlater => hchanges later (List.mem_cons_of_mem _ hlater)
      refine ⟨next, ?_, hnext⟩
      unfold apply
      rw [hrun]
      exact happly
    · exact absurd (hfamily.free h hsome hpath) hblocked

/-- Changes are carried out as on the state, up to one that fails, and no directory goes. -/
theorem Holds.exists_done (h : workspace.Holds base state)
    (husable : ∀ change ∈ changes, Usable workspace.root change.path) :
    ∃ done undone, changes = done ++ undone ∧
      ((workspace.apply changes).1 = .ok () → undone = []) ∧
      (workspace.apply changes).2.root = workspace.root ∧
      (workspace.apply changes).2.Holds base (state.replay done) ∧
      ∀ place, workspace.volume.get? place = some .directory →
        (workspace.apply changes).2.volume.get? place = some .directory := by
  induction changes generalizing workspace state with
  | nil => exact ⟨[], [], rfl, fun _ => rfl, rfl, h, fun _ hplace => hplace⟩
  | cons change rest ih =>
    unfold apply
    rcases h.applyChange_cases (husable change List.mem_cons_self) with
      ⟨-, middle, hrun, hmiddle, haltered⟩ | ⟨-, error, hrun⟩
    · rw [hrun]
      have husable' : ∀ later ∈ rest, Usable middle.root later.path := by
        intro later hlater
        rw [haltered.root]
        exact husable later (List.mem_cons_of_mem _ hlater)
      obtain ⟨done, undone, rfl, hall, hroot, hnext, hstays⟩ := ih hmiddle husable'
      exact ⟨change :: done, undone, rfl, hall, hroot.trans haltered.root, hnext,
        fun place hplace => hstays place (haltered.stays place hplace)⟩
    · rw [hrun]
      exact ⟨[], change :: rest, rfl, nofun, rfl, h, fun _ hplace => hplace⟩

/-- Changes that were all carried out were carried out as on the state, and left the directories. -/
theorem Holds.of_apply (h : workspace.Holds base state)
    (husable : ∀ change ∈ changes, Usable workspace.root change.path)
    (hok : workspace.apply changes = (.ok (), next)) :
    next.Holds base (state.replay changes) ∧ ∀ place,
      workspace.volume.get? place = some .directory → next.volume.get? place = some .directory := by
  obtain ⟨done, undone, rfl, hall, -, hnext, hstays⟩ := h.exists_done husable
  rw [hok] at hall hnext hstays
  rw [hall rfl, List.append_nil]
  exact ⟨hnext, hstays⟩

theorem apply_cons (workspace : DirectoryWorkspace) (change : Change) (rest : List Change) :
    workspace.apply (change :: rest) = match workspace.applyChange change with
      | (.error error, next) => (.error error, next)
      | (.ok (), next) => next.apply rest := rfl

theorem apply_append (workspace : DirectoryWorkspace) (front back : List Change) :
    workspace.apply (front ++ back) = match workspace.apply front with
      | (.error error, next) => (.error error, next)
      | (.ok (), next) => next.apply back := by
  induction front generalizing workspace with
  | nil => rfl
  | cons change rest ih =>
    rw [List.cons_append, apply_cons, apply_cons]
    rcases workspace.applyChange change with ⟨error | done, middle⟩
    · rfl
    · exact ih middle

theorem exists_apply_of_append {front back : List Change}
    (h : workspace.apply (front ++ back) = (.ok (), next)) :
    ∃ middle, workspace.apply front = (.ok (), middle) := by
  rw [apply_append] at h
  rcases happly : workspace.apply front with ⟨error | done, middle⟩
  · rw [happly] at h
    cases h
  · exact ⟨middle, rfl⟩

/-! ## Reading -/

theorem Holds.read_eq (h : workspace.Holds base state) (husable : Usable workspace.root path)
    (hfree : workspace.Free base path) : workspace.read path = .ok (state.get? path) := by
  obtain ⟨front, name, hnames⟩ := Route.exists_names path
  have hdescends := h.descends husable
  have hnone : state.get? path = none → ∀ content,
      workspace.volume.get? (base ++ Route.names path) ≠ some (.file content) := h.get?_of_none
  have hfile := h.file path
  unfold Free at hfree
  rw [hnames] at hdescends hnone hfile hfree
  rw [List.dropLast_concat] at hfree
  unfold read
  rw [resolve_eq husable]
  simp only
  unfold Volume.readText
  rcases hdescends.read_eq h.orderly hfree.1 hfree.2 with ⟨content, hget, hread⟩ | ⟨hget, hread⟩
  · cases hstate : state.get? path with
    | none => exact absurd hget (hnone hstate content)
    | some text =>
      rw [hfile text hstate] at hget
      cases hget
      have htext : String.fromUTF8? ⟨(Wire.textBytes text).toArray⟩ = some text :=
        Wire.textOfBytes?_textBytes text
      rw [hread]
      simp only [bind, Except.bind, htext]
      rfl
  · cases hstate : state.get? path with
    | none =>
      rw [hread]
      rfl
    | some text =>
      rw [hfile text hstate] at hget
      cases hget

theorem Holds.free_of_contains (h : workspace.Holds base state) (hpath : state.contains path = true) :
    workspace.Free base path := by
  obtain ⟨text, htext⟩ := FileState.contains_iff.1 hpath
  obtain ⟨front, name, hnames⟩ := Route.exists_names path
  have hfile := h.file path text htext
  refine ⟨?_, h.ne_directory hpath⟩
  rw [hnames] at hfile ⊢
  rw [List.dropLast_concat]
  intro part hpart hfront content hget
  rw [h.orderly.paved hfile part hpart hfront] at hget
  cases hget

theorem Holds.text?_eq (h : workspace.Holds base state) (husable : Usable workspace.root path) :
    Workspace.text? workspace path = state.get? path := by
  have hsame : Workspace.read workspace path = workspace.read path := rfl
  unfold Workspace.text?
  rw [hsame]
  by_cases hfree : workspace.Free base path
  · rw [h.read_eq husable hfree]
  · have hnone : state.get? path = none := by
      rw [← FileState.not_contains_iff, ← Bool.not_eq_true]
      exact fun hpath => hfree (h.free_of_contains hpath)
    obtain ⟨front, name, hnames⟩ := Route.exists_names path
    have hdescends := h.descends husable
    unfold Free at hfree
    rw [hnames] at hdescends hfree
    rw [List.dropLast_concat] at hfree
    obtain ⟨fault, hread⟩ := hdescends.exists_read_error h.orderly hfree
    have hunread : workspace.volume.readText (joinPath workspace.root path) = .error fault := by
      unfold Volume.readText
      rw [hread]
      rfl
    -- A file that is missing is none, and so is one that cannot be read.
    rw [hnone]
    unfold read
    rw [resolve_eq husable]
    simp only [hunread]
    cases fault with
    | noSuchFile => rfl
    | _ => rfl

/-- What is captured at paths that can all be read is what the state has there. -/
theorem capture_eq_of_read (hread : ∀ path ∈ paths, workspace.read path = .ok (state.get? path)) :
    Workspace.capture workspace paths = Workspace.capture (MemoryWorkspace.mk state) paths := by
  have hmemory : ∀ path, Workspace.read (MemoryWorkspace.mk state) path = .ok (state.get? path) :=
    fun _ => rfl
  have hsame : ∀ path ∈ paths, Workspace.read workspace path = .ok (state.get? path) := hread
  unfold Workspace.capture
  apply List.foldl_ext
  intro captured path hpath
  rw [hsame path hpath, hmemory]

theorem Holds.capture_eq (h : workspace.Holds base state) (hfamily : workspace.Family base paths)
    (hsome : ∀ other, state.contains other = true → other ∈ paths) :
    Workspace.capture workspace paths = (state, []) := by
  have hread : ∀ path ∈ paths, workspace.read path = .ok (state.get? path) := fun path hpath =>
    h.read_eq (hfamily.usable path hpath) (hfamily.free h hsome hpath)
  rw [capture_eq_of_read hread, Prod.ext_iff]
  refine ⟨?_, ?_⟩
  · ext1 path
    rw [MemoryWorkspace.get?_capture]
    by_cases hpath : path ∈ paths
    · rw [if_pos hpath]
    · rw [if_neg hpath]
      refine (FileState.not_contains_iff.1 ?_).symm
      rw [← Bool.not_eq_true]
      exact fun hcontains => hpath (hsome path hcontains)
  · rw [MemoryWorkspace.capture_eq]

/-! ## A bare directory -/

/-- The directory "t" of a volume with nothing else. -/
def bare : DirectoryWorkspace := ⟨{ nodes := [(["t"], .directory)] }, "t"⟩

theorem get?_bare {names : List String} (h : names ≠ []) :
    bare.volume.get? (["t"] ++ names) = none := by
  unfold Volume.get? bare
  simp [FileState.lookup_entry_cons, h]

theorem holds_bare : bare.Holds ["t"] .empty := by
  refine ⟨rfl, ⟨fun _ _ => rfl, fun _ => rfl, ?_⟩, rfl, ?_, ?_⟩
  · intro front back hfront _ hthere
    exact absurd (get?_bare (by simp [hfront])) hthere
  · intro path text hfile
    cases hfile
  · intro names content hfile
    by_cases hnames : names = []
    · subst hnames
      cases hfile
    · rw [get?_bare hnames] at hfile
      cases hfile

/-- What was written into the bare directory is a state that the directory holds. -/
theorem holds_of_written (husable : ∀ change ∈ FileState.empty.diff state, Usable "t" change.path)
    (hwritten : bare.apply (FileState.empty.diff state) = (.ok (), workspace)) :
    workspace.Holds ["t"] state := by
  have hholds := (holds_bare.of_apply husable hwritten).1
  rwa [FileState.replay_diff] at hholds

/-! ## Moves between two states -/

/-- A state whose files can be laid out in a directory by themselves. -/
structure Realizable (root : String) (state : FileState) : Prop where
  usable : ∀ path ∈ state.paths, Usable root path
  apart : ∀ path ∈ state.paths, ∀ other ∈ state.paths, ¬ Route.Under path other

instance (root : String) (state : FileState) : Decidable (Realizable root state) :=
  decidable_of_iff ((∀ path ∈ state.paths, Usable root path) ∧
      ∀ path ∈ state.paths, ∀ other ∈ state.paths, ¬ Route.Under path other)
    ⟨fun h => ⟨h.1, h.2⟩, fun h => ⟨h.usable, h.apart⟩⟩

variable {a b : FileState}

theorem path_mem_of_mem_diff {change : Change} (h : change ∈ a.diff b) :
    change.path ∈ a.paths ++ b.paths := by
  have hdiffer := (FileState.of_mem_diff h).1
  rw [List.mem_append, FileState.mem_paths_iff, FileState.mem_paths_iff]
  by_contra hnone
  rw [not_or, Bool.not_eq_true, Bool.not_eq_true, FileState.not_contains_iff,
    FileState.not_contains_iff] at hnone
  exact hdiffer (hnone.1.trans hnone.2.symm)

/-- Between the writes and the removals of a move, the files of both states are there. -/
theorem exists_diff_eq_append (a b : FileState) : ∃ writes removals, a.diff b = writes ++ removals ∧
    ∀ path ∈ a.paths ++ b.paths, (a.replay writes).contains path = true := by
  refine ⟨_, _, rfl, ?_⟩
  intro path hpath
  have hsum := FileState.replay_diff a b
  unfold FileState.diff at hsum
  rw [FileState.replay_append] at hsum
  rw [List.mem_append, FileState.mem_paths_iff, FileState.mem_paths_iff] at hpath
  by_cases hb : b.contains path = true
  · -- No removal is about a path of the second state.
    obtain ⟨text, htext⟩ := FileState.contains_iff.1 hb
    refine FileState.contains_iff.2 ⟨text, ?_⟩
    rw [← htext, ← congrArg (·.get? path) hsum]
    apply (FileState.get?_replay_of_not_mem _ _).symm
    intro change hchange hsame
    obtain ⟨gone, hgone, rfl⟩ := List.mem_map.1 hchange
    obtain rfl : gone = path := hsame
    have hgone' := (List.mem_filter.1 hgone).2
    rw [hb] at hgone'
    cases hgone'
  · -- And no write is about a path of the first one only.
    rw [FileState.contains_iff, FileState.get?_replay_of_not_mem, ← FileState.contains_iff]
    · exact hpath.resolve_right hb
    · intro change hchange hsame
      obtain ⟨entry, hentry, hwrite⟩ := List.mem_filterMap.1 hchange
      have hentry' : entry.1 = path := (FileState.path_of_writeChange hwrite).symm.trans hsame
      exact hb (FileState.mem_paths_iff.1 (hentry' ▸ List.mem_map_of_mem hentry))

/-- The paths of both states can be files at once just when no file or directory of the first is in
the way of the second. -/
theorem Holds.family_iff (h : workspace.Holds base a) (ha : Realizable workspace.root a)
    (hb : Realizable workspace.root b) :
    workspace.Family base (a.paths ++ b.paths) ↔
      ∀ path ∈ b.paths, workspace.volume.get? (base ++ Route.names path) ≠ some .directory ∧
        ∀ other ∈ a.paths, ¬ Route.Under path other := by
  constructor
  · intro hfamily path hpath
    exact ⟨hfamily.vacant path (List.mem_append_right _ hpath), fun other hother =>
      hfamily.apart path (List.mem_append_right _ hpath) other (List.mem_append_left _ hother)⟩
  · intro hfree
    refine ⟨?_, ?_, ?_⟩
    · intro path hpath
      exact (List.mem_append.1 hpath).elim (ha.usable path) (hb.usable path)
    · intro path hpath other hother
      rcases List.mem_append.1 hpath with hpath | hpath
      · rcases List.mem_append.1 hother with hother | hother
        · exact ha.apart path hpath other hother
        · intro hunder
          exact (hfree other hother).1 (h.get?_of_under (FileState.mem_paths_iff.1 hpath) hunder)
      · rcases List.mem_append.1 hother with hother | hother
        · exact (hfree path hpath).2 other hother
        · exact hb.apart path hpath other hother
    · intro path hpath
      rcases List.mem_append.1 hpath with hpath | hpath
      · exact h.ne_directory (FileState.mem_paths_iff.1 hpath)
      · exact (hfree path hpath).1

theorem Holds.family_of_apply (h : workspace.Holds base a) (ha : Realizable workspace.root a)
    (hb : Realizable workspace.root b) (hok : workspace.apply (a.diff b) = (.ok (), next)) :
    workspace.Family base (a.paths ++ b.paths) := by
  have husable : ∀ path ∈ a.paths ++ b.paths, Usable workspace.root path := fun path hpath =>
    (List.mem_append.1 hpath).elim (ha.usable path) (hb.usable path)
  obtain ⟨writes, removals, hdiff, hall⟩ := exists_diff_eq_append a b
  have hwrites : ∀ change ∈ writes, Usable workspace.root change.path := fun change hchange =>
    husable _ (path_mem_of_mem_diff (hdiff ▸ List.mem_append_left _ hchange))
  rw [hdiff] at hok
  obtain ⟨middle, hmiddle⟩ := exists_apply_of_append hok
  obtain ⟨hholds, hstays⟩ := h.of_apply hwrites hmiddle
  refine ⟨husable, ?_, ?_⟩
  · intro path hpath other hother
    exact hholds.not_under (hall path hpath) (hall other hother)
  · intro path hpath hdirectory
    exact hholds.ne_directory (hall path hpath) (hstays _ hdirectory)

theorem Holds.exists_apply_diff (h : workspace.Holds base a)
    (hfamily : workspace.Family base (a.paths ++ b.paths)) :
    ∃ next, workspace.apply (a.diff b) = (.ok (), next) ∧ next.Holds base b ∧
      Workspace.capture next (a.paths ++ b.paths) = (b, []) := by
  obtain ⟨next, happly, hnext, hfamily', hsome⟩ := h.exists_apply hfamily
    (fun other hother => List.mem_append_left _ (FileState.mem_paths_iff.2 hother))
    (fun change hchange => path_mem_of_mem_diff hchange)
  rw [FileState.replay_diff] at hnext hsome
  exact ⟨next, happly, hnext, hnext.capture_eq hfamily' hsome⟩

/-- In a directory that holds the files of one state, a move to another state is carried out just
when no directory stands where the other has a file, and no file on the way to one. Without empty
directories that is when no path of either state leads through a path of the other. Then the files
are those of the other state. -/
theorem a_move_is_laid_out_just_when_nothing_is_in_its_way {workspace : DirectoryWorkspace}
    {base : Place} {a b : FileState} (h : workspace.Holds base a) (ha : Realizable workspace.root a)
    (hb : Realizable workspace.root b) :
    ((workspace.apply (a.diff b)).1 = .ok () ↔
      ∀ path ∈ b.paths, workspace.volume.get? (base ++ Route.names path) ≠ some .directory ∧
        ∀ other ∈ a.paths, ¬ Route.Under path other) ∧
    ((∀ names, names ≠ [] → workspace.volume.get? (base ++ names) = some .directory →
        ∃ path ∈ a.paths, names <+: Route.names path) →
      ((workspace.apply (a.diff b)).1 = .ok () ↔
        ∀ path ∈ b.paths, ∀ other ∈ a.paths, ¬ Route.Under path other ∧ ¬ Route.Under other path)) ∧
    ((workspace.apply (a.diff b)).1 = .ok () →
      (workspace.apply (a.diff b)).2.Holds base b ∧
        Workspace.capture (workspace.apply (a.diff b)).2 (a.paths ++ b.paths) = (b, [])) := by
  have hfamily : (workspace.apply (a.diff b)).1 = .ok () ↔
      workspace.Family base (a.paths ++ b.paths) := by
    constructor
    · intro hok
      exact h.family_of_apply ha hb (Prod.ext hok rfl)
    · intro hfamily
      obtain ⟨next, happly, -⟩ := h.exists_apply_diff hfamily
      rw [happly]
  have hway := hfamily.trans (h.family_iff ha hb)
  refine ⟨hway, ?_, ?_⟩
  · intro hfull
    rw [hway]
    constructor
    · intro hfree path hpath other hother
      refine ⟨(hfree path hpath).2 other hother, ?_⟩
      intro hunder
      exact (hfree path hpath).1 (h.get?_of_under (FileState.mem_paths_iff.1 hother) hunder)
    · intro hapart path hpath
      refine ⟨?_, fun other hother => (hapart path hpath other hother).1⟩
      intro hdirectory
      obtain ⟨other, hother, hpart⟩ := hfull _ (Route.names_ne_nil path) hdirectory
      obtain ⟨front, name, hnames⟩ := Route.exists_names other
      rw [hnames] at hpart
      rcases List.prefix_concat_iff.1 hpart with hsame | hpart
      · rw [hsame, ← hnames] at hdirectory
        exact h.ne_directory (FileState.mem_paths_iff.1 hother) hdirectory
      · refine (hapart path hpath other hother).2 ?_
        unfold Route.Under
        rwa [hnames, List.dropLast_concat]
  · intro hok
    obtain ⟨next, happly, hnext⟩ := h.exists_apply_diff (hfamily.1 hok)
    rw [happly]
    exact hnext

/-- A move within a directory, to a file beside one that stays there. -/
theorem a_move_within_a_directory_is_laid_out :
    ∃ workspace : DirectoryWorkspace,
      workspace.Holds ["t"] (.ofList [("a/b", "x"), ("c", "z")]) ∧
      (workspace.apply ((FileState.ofList [("a/b", "x"), ("c", "z")]).diff
        (.ofList [("a/b", "y"), ("a/d", "w")]))).1 = .ok () ∧
      Workspace.capture (workspace.apply ((FileState.ofList [("a/b", "x"), ("c", "z")]).diff
        (.ofList [("a/b", "y"), ("a/d", "w")]))).2 ["a/b", "c", "a/b", "a/d"]
          = (.ofList [("a/b", "y"), ("a/d", "w")], []) := by
  have hholds : Holds ⟨{ nodes := [(["t", "c"], .file [122]), (["t", "a", "b"], .file [120]),
      (["t", "a"], .directory), (["t"], .directory)] }, "t"⟩ ["t"]
      (.ofList [("a/b", "x"), ("c", "z")]) := holds_of_written (by decide +kernel) (by decide +kernel)
  obtain ⟨hway, -, hafter⟩ := a_move_is_laid_out_just_when_nothing_is_in_its_way hholds
    (b := .ofList [("a/b", "y"), ("a/d", "w")]) (by decide +kernel) (by decide +kernel)
  have hok := hway.2 (by decide +kernel)
  exact ⟨_, hholds, hok, (hafter hok).2⟩

/-- A file that becomes a directory is still there when the first file in the directory is written,
and a directory that becomes a file still holds its files. -/
theorem a_file_and_a_directory_do_not_change_places :
    ∃ file directory : DirectoryWorkspace,
      Realizable "t" (.ofList [("a", "x")]) ∧ Realizable "t" (.ofList [("a/b", "y")]) ∧
      file.root = "t" ∧ file.Holds ["t"] (.ofList [("a", "x")]) ∧
      (file.apply ((FileState.ofList [("a", "x")]).diff (.ofList [("a/b", "y")]))).1
        = .error (.write "t/a/b" .fileExists) ∧
      directory.root = "t" ∧ directory.Holds ["t"] (.ofList [("a/b", "y")]) ∧
      (directory.apply ((FileState.ofList [("a/b", "y")]).diff (.ofList [("a", "x")]))).1
        = .error (.write "t/a" .isADirectory) := by
  refine ⟨⟨{ nodes := [(["t", "a"], .file [120]), (["t"], .directory)] }, "t"⟩,
    ⟨{ nodes := [(["t", "a", "b"], .file [121]), (["t", "a"], .directory), (["t"], .directory)] }, "t"⟩,
    by decide +kernel, by decide +kernel, rfl, ?_, by decide +kernel, rfl, ?_, by decide +kernel⟩
  · exact holds_of_written (by decide +kernel) (by decide +kernel)
  · exact holds_of_written (by decide +kernel) (by decide +kernel)

end

end DirectoryWorkspace

end LessonHistory
