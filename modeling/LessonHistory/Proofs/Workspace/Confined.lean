-- What a directory leaves alone, on a volume without links. Only paths that keep below it are let
-- through, and what is done under them is done to files strictly below the directory. Nothing else is
-- new but directories on the way there. Where changes stop, the last one may be half done, and none
-- after it has had an effect.
import LessonHistory.Proofs.Volume.Unlinked
import LessonHistory.Proofs.Workspace.Layout

namespace LessonHistory

namespace Route

/-! ## Paths that keep below a directory -/

/-- The names on a path: its segments that lead anywhere. -/
def waypoints (path : String) : List String :=
  ((segments path.toList).filter (!isIdle ·)).map String.ofList

/-- The path is empty or begins with a slash; or, cut at its slashes, its first segment is a dot, or any
segment is two dots. -/
def Strays (path : String) : Prop :=
  path = "" ∨ path.toList.head? = some '/' ∨
    (path.toList.splitOn '/').head? = some ['.'] ∨ ['.', '.'] ∈ path.toList.splitOn '/'

instance (path : String) : Decidable (Strays path) := inferInstanceAs (Decidable (_ ∨ _ ∨ _ ∨ _))

theorem segments_eq_splitOn (text : List Char) : segments text = text.splitOn '/' := by
  have hslash : ∀ part ∈ segments text, '/' ∉ part := fun _ => slash_not_mem_segments
  have hsplit := List.splitOn_intercalate '/' hslash (segments_ne_nil text)
  replace hsplit : (joined (segments text)).splitOn '/' = segments text := hsplit
  rw [joined_segments] at hsplit
  exact hsplit.symm

/-- The first segment is empty where there is nothing in front of the first slash. -/
theorem head?_segments_eq_nil_iff (text : List Char) :
    (segments text).head? = some [] ↔ text = [] ∨ text.head? = some '/' := by
  cases text with
  | nil => simp [segments]
  | cons c rest =>
    by_cases hslash : c = '/'
    · simp [segments, hslash]
    · obtain ⟨first, others, hsegments⟩ := List.exists_cons_of_ne_nil (segments_ne_nil rest)
      rw [segments, if_neg hslash, hsegments]
      simp [hslash]

theorem not_strays_iff {path : String} : ¬Strays path ↔ DirectoryWorkspace.isPlain path = true := by
  have hempty := head?_segments_eq_nil_iff path.toList
  rw [String.toList_eq_nil_iff] at hempty
  unfold Strays DirectoryWorkspace.isPlain
  rw [← or_assoc, ← hempty, ← segments_eq_splitOn]
  obtain ⟨first, others, hparts⟩ := List.exists_cons_of_ne_nil (segments_ne_nil path.toList)
  rw [hparts]
  simp only [List.head?_cons, Option.some_inj, not_or, Bool.and_eq_true, decide_eq_true_eq,
    List.all_eq_true, and_assoc]
  refine and_congr_right fun _ => and_congr_right fun _ => ?_
  constructor
  · rintro hups part hpart rfl
    exact hups hpart
  · intro hups hmem
    exact hups _ hmem rfl

variable {path : String}

theorem head_ne_of_not_strays (h : ¬Strays path) : path.toList.head? ≠ some '/' :=
  fun hhead => h (.inr (.inl hhead))

/-- Where no segment leads up, every step is a name. -/
theorem steps_of_not_strays (h : ¬Strays path) : (ofText path).steps = (waypoints path).map .name := by
  have hups : ['.', '.'] ∉ segments path.toList := by
    rw [segments_eq_splitOn]
    exact fun hup => h (.inr (.inr (.inr hup)))
  unfold waypoints
  rw [steps_ofText]
  clear h
  generalize segments path.toList = parts at hups ⊢
  induction parts with
  | nil => rfl
  | cons first rest ih =>
    rw [List.mem_cons, not_or] at hups
    cases hidle : isIdle first with
    | true =>
      rw [List.filterMap_cons_none (stepOf?_of_isIdle hidle), ih hups.2]
      simp [hidle]
    | false =>
      have hstep : stepOf? first = some (.name (String.ofList first)) := by
        unfold stepOf?
        rw [if_neg (by simp [hidle]), if_neg (Ne.symm hups.1)]
      rw [List.filterMap_cons_some hstep, ih hups.2]
      simp [hidle]

/-- The first segment of such a path is a name. -/
theorem waypoints_ne_nil (h : ¬Strays path) : waypoints path ≠ [] := by
  rw [not_strays_iff] at h
  unfold DirectoryWorkspace.isPlain at h
  unfold waypoints
  cases hparts : segments path.toList with
  | nil => exact absurd hparts (segments_ne_nil _)
  | cons first rest =>
    rw [hparts] at h
    simp only [Bool.and_eq_true, decide_eq_true_eq] at h
    have hidle : isIdle first = false := by
      unfold isIdle
      simp [h.1.1, h.1.2]
    simp [hidle]

end Route

theorem Volume.read_of_readText {volume : Volume} {path text : String}
    (h : volume.readText path = .ok text) : volume.read path = .ok (Wire.textBytes text) := by
  unfold readText at h
  cases hread : volume.read path with
  | error fault =>
    rw [hread] at h
    cases h
  | ok content =>
    rw [hread] at h
    simp only [bind, Except.bind] at h
    split at h
    · rename_i found hbytes
      cases h
      rw [Wire.textBytes_of_textOfBytes? hbytes]
    · cases h

namespace DirectoryWorkspace

variable {workspace next : DirectoryWorkspace} {path : String}

/-! ## Inside and outside -/

/-- The place from which the path of the directory leads. -/
def origin (workspace : DirectoryWorkspace) : Place :=
  workspace.volume.start (Route.ofText workspace.root)

/-- The place of the directory. -/
def base (workspace : DirectoryWorkspace) : Place :=
  Route.follow workspace.origin (Route.ofText workspace.root).steps

/-- The place of a file in the directory. -/
def placeOf (workspace : DirectoryWorkspace) (path : String) : Place :=
  workspace.base ++ Route.waypoints path

/-- The directory itself, and all that is not below it. -/
def Outside (workspace : DirectoryWorkspace) (place : Place) : Prop :=
  ∀ names, names ≠ [] → place ≠ workspace.base ++ names

/-- The places that the path of the directory leads through, and its own. -/
def OnWayToRoot (workspace : DirectoryWorkspace) : Place → Prop :=
  Route.OnWay workspace.origin (Route.ofText workspace.root).steps

/-- Those, and the places between the directory and a file in it. -/
def OnWayTo (workspace : DirectoryWorkspace) (path : String) : Place → Prop :=
  Route.OnWay workspace.origin
    ((Route.ofText workspace.root).steps ++ (Route.waypoints path).dropLast.map .name)

theorem not_outside_placeOf (h : ¬Route.Strays path) : ¬workspace.Outside (workspace.placeOf path) :=
  fun houtside => houtside _ (Route.waypoints_ne_nil h) rfl

/-- Outside of the directory, the way to a file is the way to the directory. -/
theorem onWayToRoot_of_onWayTo {place : Place} (houtside : workspace.Outside place)
    (h : workspace.OnWayTo path place) : workspace.OnWayToRoot place := by
  rcases h.append_cases with hroot | ⟨front, hfront, hplace⟩
  · exact hroot
  · exact absurd hplace (houtside front hfront)

theorem resolve_of_strays (h : Route.Strays path) :
    workspace.resolve path = .error (.invalidPath path) := by
  have hplain : ¬isPlain path = true := fun hplain => Route.not_strays_iff.2 hplain h
  exact if_neg hplain

theorem resolve_of_not_strays (h : ¬Route.Strays path) :
    workspace.resolve path = .ok (joinPath workspace.root path) :=
  if_pos (Route.not_strays_iff.1 h)

theorem start_joinPath (h : ¬Route.Strays path) :
    workspace.volume.start (Route.ofText (joinPath workspace.root path)) = workspace.origin := by
  unfold origin Volume.start
  rw [Route.absolute_joinPath (Route.head_ne_of_not_strays h)]

theorem steps_joinPath_eq (h : ¬Route.Strays path) :
    (Route.ofText (joinPath workspace.root path)).steps
      = (Route.ofText workspace.root).steps ++ (Route.waypoints path).map .name := by
  rw [Route.steps_joinPath (Route.head_ne_of_not_strays h), Route.steps_of_not_strays h]

theorem follow_joinPath (h : ¬Route.Strays path) :
    Route.follow (workspace.volume.start (Route.ofText (joinPath workspace.root path)))
      (Route.ofText (joinPath workspace.root path)).steps = workspace.placeOf path := by
  rw [start_joinPath h, steps_joinPath_eq h, Route.follow_append, Route.follow_names]
  rfl

/-! ## One change -/

/-- All that can come of a change. One that strays is refused and touches nothing. Directories may
have been made for a file that cannot be written then, or of which only the beginning is. -/
inductive Effect (workspace : DirectoryWorkspace) (change : Change) :
    Except WorkspaceError Unit → DirectoryWorkspace → Prop where
  | refused (strays : Route.Strays change.path) :
    Effect workspace change (.error (.invalidPath change.path)) workspace
  | absent (keeps : ¬Route.Strays change.path) (removal : change.text? = none) :
    Effect workspace change (.ok ()) workspace
  | removed (keeps : ¬Route.Strays change.path) (removal : change.text? = none) {content : List UInt8}
    (file : workspace.volume.get? (workspace.placeOf change.path) = some (.file content)) :
    Effect workspace change (.ok ())
      { workspace with volume := workspace.volume.remove (workspace.placeOf change.path) }
  | unremoved (keeps : ¬Route.Strays change.path) (removal : change.text? = none) (fault : Fault) :
    Effect workspace change (.error (.write (joinPath workspace.root change.path) fault)) workspace
  | written (keeps : ¬Route.Strays change.path) {text : String} (writes : change.text? = some text)
    {volume : Volume}
    (made : workspace.volume.OnlyMade (fun _ => True) (workspace.OnWayTo change.path) volume)
    (file : volume.get? (workspace.placeOf change.path) ≠ some .directory) :
    Effect workspace change (.ok ()) { workspace with
      volume := volume.put (workspace.placeOf change.path) (.file (Wire.textBytes text)) }
  | unwritten (keeps : ¬Route.Strays change.path) {text : String} (writes : change.text? = some text)
    {volume : Volume}
    (made : workspace.volume.OnlyMade (fun _ => True) (workspace.OnWayTo change.path) volume)
    (fault : Fault) :
    Effect workspace change (.error (.write (joinPath workspace.root change.path) fault))
      { workspace with volume }
  | cut (keeps : ¬Route.Strays change.path) {text : String} (writes : change.text? = some text)
    {volume : Volume}
    (made : workspace.volume.OnlyMade (fun _ => True) (workspace.OnWayTo change.path) volume)
    (file : volume.get? (workspace.placeOf change.path) ≠ some .directory) {count : Nat}
    (short : count < (Wire.textBytes text).length) (fault : Fault) :
    Effect workspace change (.error (.write (joinPath workspace.root change.path) fault))
      { workspace with
        volume := volume.put (workspace.placeOf change.path)
          (.file ((Wire.textBytes text).take count)) }

theorem onlyMade_makeParents_joinPath (hlinks : workspace.volume.links = []) (h : ¬Route.Strays path) :
    workspace.volume.OnlyMade (fun _ => True) (workspace.OnWayTo path)
      ((Disk.makeParents (joinPath workspace.root path)).run workspace.volume).2 := by
  have hsteps : (Route.ofText (joinPath workspace.root path)).steps = _ := steps_joinPath_eq h
  have hnames := Route.waypoints_ne_nil h
  have hne : (Route.ofText (joinPath workspace.root path)).steps ≠ [] := by
    rw [hsteps]
    simp [hnames]
  have hmade := Disk.onlyMade_makeParents hlinks hne
  rw [start_joinPath h, hsteps, List.dropLast_append_of_ne_nil (by simpa using hnames),
    ← List.map_dropLast] at hmade
  exact hmade

/-- Writing makes directories, and then the file or the beginning of it. -/
theorem run_writeText_cases (hlinks : workspace.volume.links = []) (h : ¬Route.Strays path)
    (text : String) :
    ∃ middle, workspace.volume.OnlyMade (fun _ => True) (workspace.OnWayTo path) middle ∧
      ((∃ fault, (writeText (joinPath workspace.root path) text).run workspace.volume
          = (.error fault, middle)) ∨
        middle.get? (workspace.placeOf path) ≠ some .directory ∧
          ((writeText (joinPath workspace.root path) text).run workspace.volume
              = (.ok (), middle.put (workspace.placeOf path) (.file (Wire.textBytes text))) ∨
            ∃ count < (Wire.textBytes text).length,
              (writeText (joinPath workspace.root path) text).run workspace.volume
                = (.error .fileTooLarge, middle.put (workspace.placeOf path)
                  (.file ((Wire.textBytes text).take count))))) := by
  have hmade := onlyMade_makeParents_joinPath hlinks h
  unfold writeText
  rw [Disk.run_bind]
  rcases hparents : (Disk.makeParents (joinPath workspace.root path)).run workspace.volume
    with ⟨fault | _, middle⟩
  · rw [hparents] at hmade
    exact ⟨middle, hmade, .inl ⟨fault, rfl⟩⟩
  · rw [hparents] at hmade
    refine ⟨middle, hmade, ?_⟩
    have hwrite := Disk.run_writeFile_cases (hmade.links_eq.trans hlinks)
      (joinPath workspace.root path) (Wire.textBytes text)
    rw [hmade.start_eq, follow_joinPath h] at hwrite
    rcases hwrite with hfault | ⟨hfile, hput | ⟨count, hshort, hput⟩⟩
    · exact .inl hfault
    · exact .inr ⟨hfile, .inl hput⟩
    · exact .inr ⟨hfile, .inr ⟨count, hshort, hput⟩⟩

theorem run_removeIfThere_cases (hlinks : workspace.volume.links = []) (h : ¬Route.Strays path) :
    (∃ outcome, (removeIfThere (joinPath workspace.root path)).run workspace.volume
        = (outcome, workspace.volume)) ∨
      ∃ content, workspace.volume.get? (workspace.placeOf path) = some (.file content) ∧
        (removeIfThere (joinPath workspace.root path)).run workspace.volume
          = (.ok (), workspace.volume.remove (workspace.placeOf path)) := by
  have hremove := Disk.run_removeFile_cases hlinks (joinPath workspace.root path)
  rw [follow_joinPath h] at hremove
  unfold removeIfThere
  rw [Disk.run_tryCatch]
  rcases hremove with ⟨fault, hrun⟩ | ⟨content, hfile, hrun⟩
  · refine .inl ?_
    rw [hrun]
    by_cases hmissing : fault = .noSuchFile
    · simp only [if_pos hmissing]
      exact ⟨.ok (), rfl⟩
    · simp only [if_neg hmissing]
      exact ⟨.error fault, rfl⟩
  · refine .inr ⟨content, hfile, ?_⟩
    rw [hrun]

theorem effect_applyChange (hlinks : workspace.volume.links = []) (change : Change) :
    workspace.Effect change (workspace.applyChange change).1 (workspace.applyChange change).2 := by
  unfold applyChange
  by_cases h : Route.Strays change.path
  · rw [resolve_of_strays h]
    exact .refused h
  · rw [resolve_of_not_strays h]
    simp only
    cases htext : change.text? with
    | none =>
      simp only
      rcases run_removeIfThere_cases hlinks h with
        ⟨fault | _, hrun⟩ | ⟨content, hfile, hrun⟩
      · rw [hrun]
        exact .unremoved h htext fault
      · rw [hrun]
        exact .absent h htext
      · rw [hrun]
        exact .removed h htext hfile
    | some text =>
      simp only
      obtain ⟨middle, hmade, hcases⟩ := run_writeText_cases hlinks h text
      rcases hcases with ⟨fault, hrun⟩ | ⟨hfile, hrun | ⟨count, hshort, hrun⟩⟩
      · rw [hrun]
        exact .unwritten h htext hmade fault
      · rw [hrun]
        exact .written h htext hmade hfile
      · rw [hrun]
        exact .cut h htext hmade hfile hshort _

/-! ## Changes in a row -/

/-- Outside of the directory nothing is new but directories on the way to it. -/
structure Confined (workspace next : DirectoryWorkspace) : Prop where
  root : next.root = workspace.root
  made : workspace.volume.OnlyMade workspace.Outside workspace.OnWayToRoot next.volume

theorem Confined.refl (workspace : DirectoryWorkspace) : workspace.Confined workspace :=
  ⟨rfl, .refl _ _ _⟩

theorem Confined.trans {last : DirectoryWorkspace} (h : workspace.Confined next)
    (h' : next.Confined last) : workspace.Confined last := by
  have horigin : next.origin = workspace.origin := by
    unfold origin
    rw [h.root, h.made.start_eq]
  have hmade := h'.made
  unfold Outside OnWayToRoot base at hmade
  rw [horigin, h.root] at hmade
  exact ⟨h'.root.trans h.root, h.made.trans hmade⟩

/-- Directories that are made for a file, and the file itself, are no change outside. -/
theorem onlyMade_outside {volume : Volume}
    (h : workspace.volume.OnlyMade (fun _ => True) (workspace.OnWayTo path) volume) :
    workspace.volume.OnlyMade workspace.Outside workspace.OnWayToRoot volume :=
  h.mono (fun _ _ => trivial) fun _ => onWayToRoot_of_onWayTo

theorem Effect.confined {change : Change} {outcome : Except WorkspaceError Unit}
    (h : workspace.Effect change outcome next) (hlinks : workspace.volume.links = []) :
    workspace.Confined next := by
  cases h with
  | refused => exact .refl workspace
  | absent => exact .refl workspace
  | removed keeps => exact ⟨rfl, (Volume.OnlyMade.refl _ _ _).remove hlinks (not_outside_placeOf keeps)⟩
  | unremoved => exact .refl workspace
  | written keeps _ made => exact ⟨rfl, (onlyMade_outside made).put (not_outside_placeOf keeps) _⟩
  | unwritten _ _ made => exact ⟨rfl, onlyMade_outside made⟩
  | cut keeps _ made => exact ⟨rfl, (onlyMade_outside made).put (not_outside_placeOf keeps) _⟩

theorem Confined.links_eq (h : workspace.Confined next) (hlinks : workspace.volume.links = []) :
    next.volume.links = [] := h.made.links_eq.trans hlinks

theorem confined_applyChange (hlinks : workspace.volume.links = []) (change : Change) :
    workspace.Confined (workspace.applyChange change).2 :=
  (effect_applyChange hlinks change).confined hlinks

theorem confined_apply (hlinks : workspace.volume.links = []) (changes : List Change) :
    workspace.Confined (workspace.apply changes).2 := by
  induction changes generalizing workspace with
  | nil => exact .refl workspace
  | cons change rest ih =>
    have hchange := confined_applyChange hlinks change
    rw [apply_cons]
    rcases hrun : workspace.applyChange change with ⟨error | done, next⟩
    · rw [hrun] at hchange
      exact hchange
    · rw [hrun] at hchange
      exact hchange.trans (ih (hchange.links_eq hlinks))

theorem exists_failed_of_apply {changes : List Change} {error : WorkspaceError}
    (h : workspace.apply changes = (.error error, next)) :
    ∃ before change rest done, changes = before ++ change :: rest ∧
      workspace.apply before = (.ok (), done) ∧ done.applyChange change = (.error error, next) := by
  induction changes generalizing workspace with
  | nil => cases h
  | cons change rest ih =>
    rw [apply_cons] at h
    rcases hrun : workspace.applyChange change with ⟨cause | _, middle⟩
    · rw [hrun] at h
      exact ⟨[], change, rest, workspace, rfl, rfl, hrun.trans h⟩
    · rw [hrun] at h
      obtain ⟨before, failed, others, done, rfl, happly, hfailed⟩ := ih h
      refine ⟨change :: before, failed, others, done, rfl, ?_, hfailed⟩
      rw [apply_cons, hrun]
      exact happly

/-! ## Paths that are refused, and files that are read -/

theorem applyChange_refused_iff (hlinks : workspace.volume.links = []) (change : Change)
    (other : String) : (workspace.applyChange change).1 = .error (.invalidPath other) ↔
      Route.Strays change.path ∧ other = change.path := by
  have heffect := effect_applyChange hlinks change
  rcases hrun : workspace.applyChange change with ⟨outcome, next⟩
  rw [hrun] at heffect
  replace heffect : workspace.Effect change outcome next := heffect
  cases heffect with
  | refused strays => simp [strays, eq_comm]
  | absent keeps => simp [keeps]
  | removed keeps => simp [keeps]
  | unremoved keeps => simp [keeps]
  | written keeps => simp [keeps]
  | unwritten keeps => simp [keeps]
  | cut keeps => simp [keeps]

theorem read_refused_iff (workspace : DirectoryWorkspace) (path other : String) :
    workspace.read path = .error (.invalidPath other) ↔ Route.Strays path ∧ other = path := by
  unfold read
  by_cases h : Route.Strays path
  · rw [resolve_of_strays h]
    simp [h, eq_comm]
  · rw [resolve_of_not_strays h]
    simp only [h, false_and, iff_false]
    split
    · exact nofun
    · exact nofun
    · exact nofun

theorem get?_of_read (hlinks : workspace.volume.links = []) {text : String}
    (h : workspace.read path = .ok (some text)) : ¬Route.Strays path ∧
      workspace.volume.get? (workspace.placeOf path) = some (.file (Wire.textBytes text)) := by
  have hkeeps : ¬Route.Strays path := by
    intro hstrays
    rw [(read_refused_iff workspace path path).2 ⟨hstrays, rfl⟩] at h
    cases h
  refine ⟨hkeeps, ?_⟩
  unfold read at h
  rw [resolve_of_not_strays hkeeps] at h
  simp only at h
  cases htext : workspace.volume.readText (joinPath workspace.root path) with
  | error fault =>
    rw [htext] at h
    cases fault <;> cases h
  | ok found =>
    rw [htext] at h
    cases h
    obtain ⟨directory, name, hleads, hcontent⟩ :=
      Volume.read_eq_ok_iff.1 (Volume.read_of_readText htext)
    rw [hleads.child_eq_follow hlinks, follow_joinPath hkeeps, Volume.content?_eq_some_iff] at hcontent
    exact hcontent

end DirectoryWorkspace

end LessonHistory
