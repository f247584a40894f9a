-- A directory beside a workspace in memory. What the one is asked the other can be asked too: changes
-- at paths that can all be files at once, reads and captures. Directories come with the first file
-- below them and stay when the last one is gone, which no answer shows.
import LessonHistory.Proofs.Volume.Missing
import LessonHistory.Proofs.Workspace.Layout

namespace LessonHistory

namespace Workspace

/-- What a workspace can be asked. -/
inductive Request where
  | apply (changes : List Change)
  | read (path : String)
  | capture (paths : List String)
  deriving DecidableEq

/-- What a workspace answers. -/
inductive Answer where
  | applied (outcome : Except WorkspaceError Unit)
  | found (outcome : Except WorkspaceError (Option String))
  | captured (outcome : FileState × List Notice)
  deriving DecidableEq

def Request.paths : Request → List String
  | .apply changes => changes.map Change.path
  | .read path => [path]
  | .capture paths => paths

/-- Whether nothing has failed. -/
def Answer.isOk : Answer → Bool
  | .applied outcome => outcome.isOk
  | .found outcome => outcome.isOk
  | .captured outcome => outcome.2.isEmpty

section

variable {ω : Type} [Workspace ω]

/-- The answer to a request, and the workspace after it. -/
def perform (workspace : ω) : Request → Answer × ω
  | .apply changes =>
    let (outcome, workspace) := Workspace.apply workspace changes
    (.applied outcome, workspace)
  | .read path => (.found (Workspace.read workspace path), workspace)
  | .capture paths => (.captured (Workspace.capture workspace paths), workspace)

def answers (workspace : ω) : List Request → List Answer
  | [] => []
  | request :: rest =>
    let (answer, workspace) := perform workspace request
    answer :: answers workspace rest

end

end Workspace

theorem MemoryWorkspace.isOk_of_mem_answers {workspace : MemoryWorkspace}
    {requests : List Workspace.Request} {answer : Workspace.Answer}
    (h : answer ∈ Workspace.answers workspace requests) : answer.isOk = true := by
  induction requests generalizing workspace with
  | nil => cases h
  | cons request rest ih =>
    rcases List.mem_cons.1 h with rfl | h
    · cases request with
      | apply changes => rfl
      | read path => rfl
      | capture paths =>
        simp only [MemoryWorkspace.capture_eq]
        rfl
    · exact ih h

namespace DirectoryWorkspace

variable {workspace made : DirectoryWorkspace} {base : Place} {paths : List String}
  {state : FileState} {path : String} {changes : List Change}

/-! ## Directories with files -/

/-- The directory at `base` holds the files of a state, and can hold a file at any of the paths. -/
structure Keeps (workspace : DirectoryWorkspace) (base : Place) (paths : List String)
    (state : FileState) : Prop where
  holds : workspace.Holds base state
  family : workspace.Family base paths
  own : ∀ other, state.contains other = true → other ∈ paths

theorem Keeps.exists_apply (h : workspace.Keeps base paths state)
    (hchanges : ∀ change ∈ changes, change.path ∈ paths) :
    ∃ next, workspace.apply changes = (.ok (), next) ∧
      next.Keeps base paths (state.replay changes) := by
  obtain ⟨next, happly, hholds, hfamily, hown⟩ := h.holds.exists_apply h.family h.own hchanges
  exact ⟨next, happly, hholds, hfamily, hown⟩

theorem Keeps.read_eq (h : workspace.Keeps base paths state) (hpath : path ∈ paths) :
    workspace.read path = .ok (state.get? path) :=
  h.holds.read_eq (h.family.usable path hpath) (h.family.free h.holds h.own hpath)

/-! ## Directories that are not there yet -/

/-- The workspace does what the other one does as soon as something is written, and until then has
no files. -/
structure Awaits (workspace made : DirectoryWorkspace) : Prop where
  root : made.root = workspace.root
  read : ∀ path, Usable workspace.root path → workspace.read path = .ok none
  write : ∀ change, Usable workspace.root change.path → change.text? ≠ none →
    workspace.applyChange change = made.applyChange change
  remove : ∀ change, Usable workspace.root change.path → change.text? = none →
    workspace.applyChange change = (.ok (), workspace)

/-- The directory keeps the files of the state, or waits for the first one. -/
def Ready (workspace : DirectoryWorkspace) (base : Place) (paths : List String)
    (state : FileState) : Prop :=
  workspace.Keeps base paths state ∨
    (state = .empty ∧ ∃ made, made.Keeps base paths .empty ∧ workspace.Awaits made)

theorem Ready.exists_apply (h : workspace.Ready base paths state)
    (hchanges : ∀ change ∈ changes, change.path ∈ paths) :
    ∃ next, workspace.apply changes = (.ok (), next) ∧
      next.Ready base paths (state.replay changes) := by
  rcases h with hkeeps | ⟨rfl, made, hmade, hawaits⟩
  · obtain ⟨next, happly, hnext⟩ := hkeeps.exists_apply hchanges
    exact ⟨next, happly, .inl hnext⟩
  · -- The removals in front do nothing, and with the first write the directory is there.
    induction changes with
    | nil => exact ⟨workspace, rfl, .inr ⟨rfl, made, hmade, hawaits⟩⟩
    | cons change rest ih =>
      have husable : Usable workspace.root change.path :=
        hawaits.root ▸ hmade.family.usable _ (hchanges change List.mem_cons_self)
      by_cases htext : change.text? = none
      · obtain ⟨next, happly, hnext⟩ :=
          ih fun later hlater => hchanges later (List.mem_cons_of_mem _ hlater)
        refine ⟨next, ?_, ?_⟩
        · unfold apply
          rw [hawaits.remove change husable htext]
          exact happly
        · have hempty : change.apply .empty = .empty := by
            ext1 other
            rw [FileState.get?_apply, htext]
            simp
          rw [FileState.replay_cons, hempty]
          exact hnext
      · obtain ⟨next, happly, hnext⟩ := hmade.exists_apply hchanges
        refine ⟨next, ?_, .inl hnext⟩
        rw [← happly]
        unfold apply
        rw [hawaits.write change husable htext]

theorem Ready.read_eq (h : workspace.Ready base paths state) (hpath : path ∈ paths) :
    workspace.read path = .ok (state.get? path) := by
  rcases h with hkeeps | ⟨rfl, made, hmade, hawaits⟩
  · exact hkeeps.read_eq hpath
  · exact hawaits.read path (hawaits.root ▸ hmade.family.usable path hpath)

/-- A request has the same answer as in memory, and so do those after it. -/
theorem Ready.answers_eq {requests : List Workspace.Request} (h : workspace.Ready base paths state)
    (hrequests : ∀ request ∈ requests, ∀ path ∈ request.paths, path ∈ paths) :
    Workspace.answers workspace requests
      = Workspace.answers (MemoryWorkspace.mk state) requests := by
  induction requests generalizing workspace state with
  | nil => rfl
  | cons request rest ih =>
    obtain ⟨hrequest, hrest⟩ := List.forall_mem_cons.1 hrequests
    unfold Workspace.answers
    cases request with
    | apply changes =>
      obtain ⟨next, happly, hnext⟩ := h.exists_apply (List.forall_mem_map.1 hrequest)
      have hperform : Workspace.perform workspace (.apply changes) = (.applied (.ok ()), next) :=
        congrArg (fun outcome => (Workspace.Answer.applied outcome.1, outcome.2)) happly
      simp only [hperform]
      exact congrArg _ (ih hnext hrest)
    | read path =>
      have hread : Workspace.read workspace path = .ok (state.get? path) :=
        h.read_eq (hrequest path List.mem_cons_self)
      simp only [Workspace.perform, hread]
      exact congrArg _ (ih h hrest)
    | capture asked =>
      have hcapture : Workspace.capture workspace asked
          = Workspace.capture (MemoryWorkspace.mk state) asked :=
        capture_eq_of_read fun path hpath => h.read_eq (hrequest path hpath)
      simp only [Workspace.perform, hcapture]
      exact congrArg _ (ih h hrest)

/-! ## A root that is empty or missing -/

/-- The way to the root leads to the directory at `place`, and from there on by names under which
nothing stands. -/
structure Misses (workspace : DirectoryWorkspace) (place : Place) (missing : List String) :
    Prop where
  way : ∃ there, (Route.ofText workspace.root).steps = there ++ missing.map .name ∧
    workspace.volume.enter (workspace.volume.start (Route.ofText workspace.root)) there = .ok place
  lacks : workspace.volume.Lacks place missing

/-- The root is a directory with nothing in it, or it is missing, and everything can be made there.
A way that goes up again behind a missing name does not lead to such a root: the directory of that
name would come with the first file, and could be in the way of another. -/
structure Vacant (workspace : DirectoryWorkspace) (base : Place) : Prop where
  misses : ∃ place missing, base = place ++ missing ∧ workspace.Misses place missing
  bare : workspace.volume.Bare base
  noFile : ∀ content, workspace.volume.get? base ≠ some (.file content)
  unlimited : workspace.volume.sizeLimit = none

section

variable {place : Place} {missing : List String}

theorem Vacant.holds_pave (h : workspace.Vacant (place ++ missing))
    (hmisses : workspace.Misses place missing) :
    Holds { workspace with volume := workspace.volume.pave place missing } (place ++ missing)
      .empty := by
  obtain ⟨there, hsteps, hthere⟩ := hmisses.way
  have hpaved := hmisses.lacks.pavedBy
  refine ⟨?_, (hpaved.bare h.bare).orderly, hpaved.sizeLimit.trans h.unlimited, nofun, ?_⟩
  · have hstart : (workspace.volume.pave place missing).start (Route.ofText workspace.root)
        = workspace.volume.start (Route.ofText workspace.root) := by
      unfold Volume.start
      rw [hpaved.workingDirectory]
    show (workspace.volume.pave place missing).enter
      ((workspace.volume.pave place missing).start (Route.ofText workspace.root)) _ = _
    rw [hstart, hsteps, Disk.enter_root_append (hpaved.enter_eq hthere)]
    exact hmisses.lacks.enter_pave
  · intro names content hfile
    rw [List.append_assoc] at hfile
    have hold := hpaved.file_of_file hfile
    rw [← List.append_assoc] at hold
    by_cases hnames : names = []
    · rw [hnames, List.append_nil] at hold
      exact absurd hold (h.noFile content)
    · rw [h.bare.empty names hnames] at hold
      cases hold

/-- All directories on the way to a path are missing, those of the root first. -/
theorem Vacant.exists_descends (h : workspace.Vacant (place ++ missing))
    (hmisses : workspace.Misses place missing) (husable : Usable workspace.root path) :
    ∃ front name, Route.names path = front ++ [name] ∧
      workspace.volume.Descends (joinPath workspace.root path) place
        ((missing ++ front) ++ [name]) ∧
      workspace.volume.Lacks place (missing ++ front) := by
  obtain ⟨there, hsteps, hthere⟩ := hmisses.way
  obtain ⟨front, name, hnames⟩ := Route.exists_names path
  have hdescends := descends_of_enter hsteps hthere hmisses.lacks.short husable
  have hshort := husable.named.short
  rw [hnames, ← List.append_assoc] at hdescends
  rw [hnames] at hshort
  exact ⟨front, name, hnames, hdescends,
    hmisses.lacks.append h.bare fun other hother => hshort other (List.mem_append_left _ hother)⟩

/-- The directories on the way to a file are made whether or not those of the root are there. -/
theorem Vacant.run_makeParents (h : workspace.Vacant (place ++ missing))
    (hmisses : workspace.Misses place missing) (husable : Usable workspace.root path) :
    (Disk.makeParents (joinPath workspace.root path)).run workspace.volume
      = (Disk.makeParents (joinPath workspace.root path)).run
        (workspace.volume.pave place missing) := by
  obtain ⟨front, name, hnames, hdescends, hlacks⟩ := h.exists_descends hmisses husable
  have hdescends' := (h.holds_pave hmisses).descends husable
  rw [hnames] at hdescends'
  rw [Disk.run_makeParents_of_lacks hdescends hlacks,
    Disk.run_makeParents_of_lacks hdescends' hlacks.behind, Volume.pave_append]

/-- As long as something is missing, nothing is found, and the first file that is written has all of
it made. -/
theorem Vacant.awaits (h : workspace.Vacant (place ++ missing))
    (hmisses : workspace.Misses place missing) (hmissing : missing ≠ []) :
    workspace.Awaits { workspace with volume := workspace.volume.pave place missing } := by
  have hlocate : ∀ path, Usable workspace.root path →
      workspace.volume.locate (Route.ofText (joinPath workspace.root path))
        = .error .noSuchFile := by
    intro path husable
    obtain ⟨front, name, -, hdescends, hlacks⟩ := h.exists_descends hmisses husable
    rw [hdescends.locate_eq, hlacks.enter_eq (by simp [hmissing])]
    rfl
  refine ⟨rfl, ?_, ?_, ?_⟩
  · intro path husable
    unfold read Volume.readText
    simp only [resolve_eq husable, Volume.read_of_error husable.parse_eq (hlocate path husable)]
    rfl
  · intro change husable htext
    obtain ⟨text, htext⟩ := Option.ne_none_iff_exists'.1 htext
    have hwrite : (writeText (joinPath workspace.root change.path) text).run workspace.volume
        = (writeText (joinPath workspace.root change.path) text).run
          (workspace.volume.pave place missing) := by
      unfold writeText
      rw [Disk.run_bind, Disk.run_bind, h.run_makeParents hmisses husable]
    unfold applyChange resolve
    simp only [isPlain_of_named husable.named, if_true, htext, hwrite]
  · intro change husable htext
    have hremove : (removeIfThere (joinPath workspace.root change.path)).run workspace.volume
        = (.ok (), workspace.volume) := by
      unfold removeIfThere
      rw [Disk.run_tryCatch,
        Disk.run_removeFile_of_error husable.parse_eq (hlocate _ husable)]
      rfl
    unfold applyChange
    simp only [resolve_eq husable, htext, hremove]

theorem Vacant.ready (h : workspace.Vacant base) (husable : ∀ path ∈ paths, Usable workspace.root path)
    (hapart : ∀ path ∈ paths, ∀ other ∈ paths, ¬ Route.Under path other) :
    workspace.Ready base paths .empty := by
  obtain ⟨place, missing, rfl, hmisses⟩ := h.misses
  have hkeeps : Keeps { workspace with volume := workspace.volume.pave place missing }
      (place ++ missing) paths .empty := by
    refine ⟨h.holds_pave hmisses, ⟨husable, hapart, ?_⟩, ?_⟩
    · intro path _ hdirectory
      have hnone := (hmisses.lacks.pavedBy.bare h.bare).empty _ (Route.names_ne_nil path)
      rw [hnone] at hdirectory
      cases hdirectory
    · intro other hother
      cases hother
  by_cases hmissing : missing = []
  · subst hmissing
    exact .inl hkeeps
  · exact .inr ⟨rfl, _, hkeeps, h.awaits hmisses hmissing⟩

end

/-- A directory that is empty or missing at first answers whatever it is asked as a workspace in
memory that is empty at first, and nothing ever fails, as long as all paths are of one family: their
names can be names of files, and none leads through another. -/
theorem a_directory_answers_as_a_workspace_in_memory {family : String → Prop}
    (hvacant : workspace.Vacant base) (husable : ∀ path, family path → Usable workspace.root path)
    (hapart : ∀ path other, family path → family other → ¬ Route.Under path other)
    {requests : List Workspace.Request}
    (hrequests : ∀ request ∈ requests, ∀ path ∈ request.paths, family path) :
    Workspace.answers workspace requests
        = Workspace.answers (MemoryWorkspace.mk .empty) requests ∧
      ∀ answer ∈ Workspace.answers workspace requests, answer.isOk = true := by
  have hfamily : ∀ path ∈ requests.flatMap Workspace.Request.paths, family path := by
    intro path hpath
    obtain ⟨request, hrequest, hpath⟩ := List.mem_flatMap.1 hpath
    exact hrequests request hrequest path hpath
  have hready : workspace.Ready base (requests.flatMap Workspace.Request.paths) .empty :=
    hvacant.ready (fun path hpath => husable path (hfamily path hpath)) fun path hpath other hother =>
      hapart path other (hfamily path hpath) (hfamily other hother)
  have hanswers := hready.answers_eq fun request hrequest path hpath =>
    List.mem_flatMap.2 ⟨request, hrequest, hpath⟩
  rw [hanswers]
  exact ⟨rfl, fun answer => MemoryWorkspace.isOk_of_mem_answers⟩

/-- A root two directories down on a volume that has none. -/
def afresh : DirectoryWorkspace := ⟨{ nodes := [] }, "t/u"⟩

theorem vacant_afresh : afresh.Vacant ["t", "u"] where
  misses := by
    refine ⟨[], ["t", "u"], rfl, ⟨[], rfl, rfl⟩, ⟨by decide, rfl, fun _ _ _ => rfl, ?_⟩⟩
    intro front hfront _
    simp [Volume.get?, afresh, hfront]
  bare := ⟨fun _ _ => rfl, fun _ _ => rfl, fun _ => rfl⟩
  noFile := nofun
  unlimited := rfl

theorem vacant_bare : bare.Vacant ["t"] where
  misses := by
    refine ⟨["t"], [], rfl, ⟨[.name "t"], rfl, rfl⟩, ⟨nofun, rfl, fun _ _ _ => rfl, ?_⟩⟩
    intro front hfront hpart
    exact absurd (List.prefix_nil.1 hpart) hfront
  bare := ⟨fun _ hnames => get?_bare hnames, fun _ _ => rfl, fun _ => rfl⟩
  noFile := nofun
  unlimited := rfl

/-- A file comes, with the directories on the way to it, and goes, and another one comes. -/
def errands : List Workspace.Request :=
  [.apply [.removeFile "c", .addFile "a/b" "x"], .read "a/b",
    .apply [.removeFile "a/b", .addFile "c" "y", .changeFile "c" "z"], .capture ["a/b", "c"]]

/-- Which directories were there, were made and were left behind shows in no answer. -/
theorem the_answers_tell_of_no_directory :
    let told := [.applied (.ok ()), .found (.ok (some "x")), .applied (.ok ()),
      .captured (.ofList [("c", "z")], [])]
    Workspace.answers afresh errands = told ∧ Workspace.answers bare errands = told := by
  intro told
  have husable : ∀ path ∈ ["a/b", "c"], Usable afresh.root path ∧ Usable bare.root path := by
    decide +kernel
  have hapart : ∀ path ∈ ["a/b", "c"], ∀ other ∈ ["a/b", "c"], ¬ Route.Under path other := by
    decide +kernel
  have hrequests : ∀ request ∈ errands, ∀ path ∈ request.paths, path ∈ ["a/b", "c"] := by decide
  have hmemory : Workspace.answers (MemoryWorkspace.mk .empty) errands = told := by decide +kernel
  have hafresh := a_directory_answers_as_a_workspace_in_memory vacant_afresh
    (fun path hpath => (husable path hpath).1)
    (fun path other hpath hother => hapart path hpath other hother) hrequests
  have hbare := a_directory_answers_as_a_workspace_in_memory vacant_bare
    (fun path hpath => (husable path hpath).2)
    (fun path other hpath hother => hapart path hpath other hother) hrequests
  exact ⟨hafresh.1.trans hmemory, hbare.1.trans hmemory⟩

end DirectoryWorkspace

end LessonHistory
