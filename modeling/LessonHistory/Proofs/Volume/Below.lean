-- What stands below a directory of a volume, by the names that lead to it from there. Where no file
-- is in the way, all directories on the way to a name can be made, and then a file can be written,
-- read and removed under that name. A file in the way stops all of this before anything is made.
import LessonHistory.Proofs.Volume.Content
import LessonHistory.Proofs.Volume.Reach
import Mathlib.Data.List.Induction

namespace LessonHistory

namespace Volume

/-! ## Names below a directory -/

/-- Nothing below the directory is a link or sealed, and whatever is there is in directories. -/
structure Orderly (volume : Volume) (base : Place) : Prop where
  unlinked : ∀ names, names ≠ [] → volume.links.lookup (base ++ names) = none
  unsealed : ∀ names, volume.isSealed (base ++ names) = false
  closed : ∀ front back, front ≠ [] → back ≠ [] → volume.get? (base ++ (front ++ back)) ≠ none →
    volume.get? (base ++ front) = some .directory

/-- The names lead through directories only. -/
def Paved (volume : Volume) (base : Place) (names : List String) : Prop :=
  ∀ front, front ≠ [] → front <+: names → volume.get? (base ++ front) = some .directory

/-- None of the names leads to a file. -/
def NoFileOn (volume : Volume) (base : Place) (names : List String) : Prop :=
  ∀ front, front ≠ [] → front <+: names → ∀ content, volume.get? (base ++ front) ≠ some (.file content)

variable {volume after : Volume} {base : Place} {names : List String} {name : String}

theorem ne_append_of_front {front rest : List String} (h : front <+: names) (hrest : rest ≠ []) :
    base ++ front ≠ base ++ (names ++ rest) := by
  intro hsame
  have hlength := h.length_le
  have hpos := List.length_pos_iff.2 hrest
  rw [List.append_cancel_left hsame, List.length_append] at hlength
  omega

theorem prefix_append_cases {α : Type} {part front back : List α} (h : part <+: front ++ back) :
    part <+: front ∨ ∃ rest, rest ≠ [] ∧ part = front ++ rest := by
  rcases List.prefix_or_prefix_of_prefix h (List.prefix_append front back) with hin | ⟨rest, rfl⟩
  · exact .inl hin
  · by_cases hrest : rest = []
    · exact .inl (by simp [hrest])
    · exact .inr ⟨rest, hrest, rfl⟩

theorem paved_concat_iff :
    volume.Paved base (names ++ [name]) ↔
      volume.Paved base names ∧ volume.get? (base ++ (names ++ [name])) = some .directory := by
  constructor
  · intro h
    refine ⟨?_, h _ (by simp) (List.prefix_rfl)⟩
    intro front hfront hpart
    exact h front hfront (hpart.trans (List.prefix_append _ _))
  · rintro ⟨hpaved, hlast⟩ front hfront hpart
    rcases List.prefix_concat_iff.1 hpart with rfl | hpart
    · exact hlast
    · exact hpaved front hfront hpart

theorem NoFileOn.mono (h : volume.NoFileOn base names) {front : List String} (hpart : front <+: names) :
    volume.NoFileOn base front :=
  fun other hother hfront => h other hother (hfront.trans hpart)

/-- A file that is on the way now, and was not before the last name, is at the end. -/
theorem NoFileOn.exists_file (h : volume.NoFileOn base names)
    (hfile : ¬ volume.NoFileOn base (names ++ [name])) :
    ∃ content, volume.get? (base ++ (names ++ [name])) = some (.file content) := by
  by_contra hnone
  refine hfile fun front hne hpart content hget => ?_
  rcases List.prefix_concat_iff.1 hpart with rfl | hpart
  · exact hnone ⟨content, hget⟩
  · exact h front hne hpart content hget

/-- What leads to something leads through directories. -/
theorem Orderly.paved (h : volume.Orderly base) {node : Node}
    (hnode : volume.get? (base ++ (names ++ [name])) = some node) : volume.Paved base names := by
  intro front hfront hpart
  obtain ⟨rest, rfl⟩ := hpart
  rw [List.append_assoc] at hnode
  apply h.closed front (rest ++ [name]) hfront (by simp)
  rw [hnode]
  exact nofun

theorem child_eq_of_unlinked (h : volume.links.lookup (base ++ (names ++ [name])) = none) :
    volume.child (base ++ names) name = base ++ (names ++ [name]) := by
  unfold child
  rw [List.append_assoc, h]
  rfl

theorem Orderly.child_eq (h : volume.Orderly base) (names : List String) (name : String) :
    volume.child (base ++ names) name = base ++ (names ++ [name]) :=
  child_eq_of_unlinked (h.unlinked _ (by simp))

theorem Orderly.entry_eq (h : volume.Orderly base) (names : List String)
    (hshort : name.utf8ByteSize ≤ Route.maxNameBytes) :
    volume.entry (base ++ names) name = .ok (volume.get? (base ++ (names ++ [name]))) := by
  rw [entry_eq_ok_iff, h.child_eq]
  exact ⟨hshort, rfl⟩

theorem enter_append (directory : Place) (front back : List Step) :
    volume.enter directory (front ++ back)
      = (volume.enter directory front).bind (volume.enter · back) := by
  induction front generalizing directory with
  | nil => rfl
  | cons step rest ih =>
    cases step with
    | up => exact ih _
    | name name =>
      rw [List.cons_append, enter, enter]
      cases volume.entry directory name with
      | error fault => rfl
      | ok found =>
        rcases found with _ | _ | content
        · rfl
        · exact ih _
        · rfl

theorem Orderly.enter_concat (h : volume.Orderly base) (hshort : name.utf8ByteSize ≤ Route.maxNameBytes)
    (hfront : volume.enter base (names.map .name) = .ok (base ++ names)) :
    volume.enter base ((names ++ [name]).map .name)
      = match volume.get? (base ++ (names ++ [name])) with
        | none => .error .noSuchFile
        | some .directory => .ok (base ++ (names ++ [name]))
        | some (.file _) => .error .notADirectory := by
  rw [List.map_append, enter_append, hfront]
  show volume.enter (base ++ names) [.name name] = _
  rw [enter, h.entry_eq names hshort]
  rcases volume.get? (base ++ (names ++ [name])) with _ | _ | content
  · rfl
  · show volume.enter (volume.child (base ++ names) name) [] = _
    rw [h.child_eq]
    rfl
  · rfl

theorem enter_concat_of_error {fault : Fault}
    (h : volume.enter base (names.map .name) = .error fault) :
    volume.enter base ((names ++ [name]).map .name) = .error fault := by
  rw [List.map_append, enter_append, h]
  rfl

/-- A way through directories, where no link leads elsewhere, ends in the last of them. -/
theorem enter_of_paved
    (hunlinked : ∀ front, front ≠ [] → front <+: names → volume.links.lookup (base ++ front) = none)
    (hshort : ∀ name ∈ names, name.utf8ByteSize ≤ Route.maxNameBytes)
    (hpaved : volume.Paved base names) :
    volume.enter base (names.map .name) = .ok (base ++ names) := by
  induction names using List.reverseRecOn with
  | nil =>
    rw [List.append_nil]
    rfl
  | append_singleton names name ih =>
    obtain ⟨hfront, hlast⟩ := paved_concat_iff.1 hpaved
    have henter := ih (fun front hne hpart => hunlinked front hne (hpart.trans (List.prefix_append _ _)))
      (fun other hother => hshort other (by simp [hother])) hfront
    have hchild : volume.child (base ++ names) name = base ++ (names ++ [name]) :=
      child_eq_of_unlinked (hunlinked _ (by simp) List.prefix_rfl)
    rw [List.map_append, enter_append, henter]
    refine enter_name_eq_ok_iff.2 ⟨entry_eq_ok_iff.2 ⟨hshort name (by simp), ?_⟩, ?_⟩
    · rw [hchild, hlast]
    · rw [hchild]
      rfl

theorem Orderly.enter_of_paved (h : volume.Orderly base)
    (hshort : ∀ name ∈ names, name.utf8ByteSize ≤ Route.maxNameBytes)
    (hpaved : volume.Paved base names) :
    volume.enter base (names.map .name) = .ok (base ++ names) :=
  Volume.enter_of_paved (fun front hfront _ => h.unlinked front hfront) hshort hpaved

/-- Where something is missing, and no file is in the way, the way ends there. -/
theorem Orderly.enter_of_not_paved (h : volume.Orderly base)
    (hshort : ∀ name ∈ names, name.utf8ByteSize ≤ Route.maxNameBytes)
    (hfree : volume.NoFileOn base names) (hpaved : ¬ volume.Paved base names) :
    volume.enter base (names.map .name) = .error .noSuchFile := by
  induction names using List.reverseRecOn with
  | nil =>
    refine absurd ?_ hpaved
    intro front hfront hpart
    exact absurd (List.prefix_nil.1 hpart) hfront
  | append_singleton names name ih =>
    have hshort' : ∀ other ∈ names, other.utf8ByteSize ≤ Route.maxNameBytes :=
      fun other hother => hshort other (by simp [hother])
    by_cases hfront : volume.Paved base names
    · rw [h.enter_concat (hshort name (by simp)) (h.enter_of_paved hshort' hfront)]
      rcases hget : volume.get? (base ++ (names ++ [name])) with _ | _ | content
      · rfl
      · exact absurd (paved_concat_iff.2 ⟨hfront, hget⟩) hpaved
      · exact absurd hget (hfree _ (by simp) List.prefix_rfl content)
    · exact enter_concat_of_error (ih hshort' (hfree.mono (List.prefix_append _ _)) hfront)

theorem Orderly.enter_of_file (h : volume.Orderly base)
    (hshort : ∀ name ∈ names, name.utf8ByteSize ≤ Route.maxNameBytes)
    (hfile : ¬ volume.NoFileOn base names) :
    volume.enter base (names.map .name) = .error .notADirectory := by
  induction names using List.reverseRecOn with
  | nil =>
    refine absurd ?_ hfile
    intro front hfront hpart
    exact absurd (List.prefix_nil.1 hpart) hfront
  | append_singleton names name ih =>
    have hshort' : ∀ other ∈ names, other.utf8ByteSize ≤ Route.maxNameBytes :=
      fun other hother => hshort other (by simp [hother])
    by_cases hfront : volume.NoFileOn base names
    · -- Then the file is at the end, and what leads to it are directories.
      obtain ⟨content, hget⟩ := hfront.exists_file hfile
      rw [h.enter_concat (hshort name (by simp)) (h.enter_of_paved hshort' (h.paved hget)), hget]
    · exact enter_concat_of_error (ih hshort' hfront)

/-! ## Directories that are made -/

/-- The volume with a directory under each of the names where nothing was. -/
structure PavedBy (volume : Volume) (base : Place) (names : List String) (after : Volume) : Prop where
  paved : after.Paved base names
  elsewhere : ∀ place, (∀ front, front ≠ [] → front <+: names → place ≠ base ++ front) →
    after.get? place = volume.get? place
  kept : ∀ place, volume.get? place ≠ none → after.get? place = volume.get? place
  links : after.links = volume.links
  sealedPlaces : after.sealedPlaces = volume.sealedPlaces
  sizeLimit : after.sizeLimit = volume.sizeLimit
  workingDirectory : after.workingDirectory = volume.workingDirectory

theorem pavedBy_of_paved (h : volume.Paved base names) : volume.PavedBy base names volume :=
  ⟨h, fun _ _ => rfl, fun _ _ => rfl, rfl, rfl, rfl, rfl⟩

theorem PavedBy.put (h : volume.PavedBy base names after)
    (hnone : volume.get? (base ++ (names ++ [name])) = none) :
    volume.PavedBy base (names ++ [name]) (after.put (base ++ (names ++ [name])) .directory) := by
  have hne : base ++ (names ++ [name]) ≠ [] := by simp
  refine ⟨?_, ?_, ?_, h.links, h.sealedPlaces, h.sizeLimit, h.workingDirectory⟩
  · rw [paved_concat_iff, get?_put_self hne]
    refine ⟨?_, rfl⟩
    intro front hfront hpart
    rw [get?_put_of_ne (ne_append_of_front hpart (by simp))]
    exact h.paved front hfront hpart
  · intro place hplace
    rw [get?_put_of_ne (hplace _ (by simp) List.prefix_rfl)]
    apply h.elsewhere
    intro front hfront hpart
    exact hplace front hfront (hpart.trans (List.prefix_append _ _))
  · intro place hplace
    rw [get?_put_of_ne]
    · exact h.kept place hplace
    · rintro rfl
      exact hplace hnone

theorem PavedBy.orderly (h : volume.PavedBy base names after) (horderly : volume.Orderly base) :
    after.Orderly base where
  unlinked := by
    rw [h.links]
    exact horderly.unlinked
  unsealed := by
    unfold isSealed
    rw [h.sealedPlaces]
    exact horderly.unsealed
  closed front back hfront hback hthere := by
    by_cases hold : volume.get? (base ++ (front ++ back)) = none
    · -- What was not there before is on the way.
      have hnew : ∃ part, part ≠ [] ∧ part <+: names ∧ base ++ (front ++ back) = base ++ part := by
        by_contra hother
        refine hthere ((h.elsewhere _ ?_).trans hold)
        intro part hpart hnames hsame
        exact hother ⟨part, hpart, hnames, hsame⟩
      obtain ⟨part, -, hnames, hsame⟩ := hnew
      obtain rfl := List.append_cancel_left hsame
      exact h.paved front hfront ((List.prefix_append _ _).trans hnames)
    · have hdirectory := horderly.closed front back hfront hback hold
      rw [h.kept]
      · exact hdirectory
      · rw [hdirectory]
        exact nofun

theorem PavedBy.file_of_file (h : volume.PavedBy base names after) {others : List String}
    {content : List UInt8} (hfile : after.get? (base ++ others) = some (.file content)) :
    volume.get? (base ++ others) = some (.file content) := by
  rw [← hfile]
  apply (h.elsewhere _ _).symm
  intro part hpart hnames hsame
  rw [hsame, h.paved part hpart hnames] at hfile
  cases hfile

theorem PavedBy.directory_cases (h : volume.PavedBy base names after) {others : List String}
    (hdirectory : after.get? (base ++ others) = some .directory) :
    volume.get? (base ++ others) = some .directory ∨ others <+: names := by
  by_cases hon : others <+: names
  · exact .inr hon
  · refine .inl ?_
    rw [← hdirectory]
    apply (h.elsewhere _ _).symm
    intro part _ hnames hsame
    exact hon (List.append_cancel_left hsame ▸ hnames)

theorem PavedBy.get?_behind (h : volume.PavedBy base names after) {rest : List String}
    (hrest : rest ≠ []) :
    after.get? (base ++ (names ++ rest)) = volume.get? (base ++ (names ++ rest)) := by
  apply h.elsewhere
  intro part _ hpart
  exact (ne_append_of_front hpart hrest).symm

theorem PavedBy.get?_end (h : volume.PavedBy base names after) :
    after.get? (base ++ (names ++ [name])) = volume.get? (base ++ (names ++ [name])) :=
  h.get?_behind (by simp)

/-- The way to a directory that was there leads there still. -/
theorem PavedBy.enter_eq (h : volume.PavedBy base names after) {directory middle : Place}
    {steps : List Step} (hsteps : volume.enter directory steps = .ok middle) :
    after.enter directory steps = .ok middle := by
  refine enter_mono ?_ hsteps
  intro directory name hget
  constructor
  · unfold child
    rw [h.links]
  · rw [h.kept]
    · exact hget
    · rw [hget]
      exact nofun

/-! ## Files that are put and removed -/

theorem Orderly.put_file (h : volume.Orderly base) (hpaved : volume.Paved base names)
    (hname : volume.get? (base ++ (names ++ [name])) ≠ some .directory) (content : List UInt8) :
    (volume.put (base ++ (names ++ [name])) (.file content)).Orderly base where
  unlinked := h.unlinked
  unsealed := h.unsealed
  closed start rest hstart hrest hthere := by
    have hdirectory : volume.get? (base ++ start) = some .directory := by
      by_cases hsame : base ++ (start ++ rest) = base ++ (names ++ [name])
      · apply hpaved start hstart
        have hsplit := List.append_cancel_left hsame
        obtain ⟨others, last, rfl⟩ := List.eq_nil_or_concat rest |>.resolve_left hrest
        rw [List.concat_eq_append, ← List.append_assoc] at hsplit
        exact ⟨others, (List.append_inj' hsplit rfl).1⟩
      · rw [get?_put_of_ne hsame] at hthere
        exact h.closed start rest hstart hrest hthere
    rw [get?_put_of_ne]
    · exact hdirectory
    · intro hsame
      exact hname (hsame ▸ hdirectory)

theorem Orderly.remove_file (h : volume.Orderly base) {content : List UInt8}
    (hfile : volume.get? (base ++ (names ++ [name])) = some (.file content)) :
    (volume.remove (base ++ (names ++ [name]))).Orderly base where
  unlinked others hothers := by
    unfold remove
    simp only
    rw [FileState.lookup_filter_key (· != base ++ (names ++ [name])), h.unlinked others hothers,
      ite_self]
  unsealed := h.unsealed
  closed start rest hstart hrest hthere := by
    have hother : base ++ (start ++ rest) ≠ base ++ (names ++ [name]) := by
      intro hsame
      rw [hsame, get?_remove_self (by simp)] at hthere
      exact hthere rfl
    rw [get?_remove_of_ne hother] at hthere
    have hdirectory := h.closed start rest hstart hrest hthere
    rw [get?_remove_of_ne]
    · exact hdirectory
    · intro hsame
      rw [hsame, hfile] at hdirectory
      cases hdirectory

end Volume

namespace Disk

variable {volume middle after : Volume} {start base : Place} {root : List Step}
  {names : List String}

theorem run_makeDirectory_of_error {directory : Place} {steps : List Step} {name : String}
    {fault : Fault}
    (h : volume.enter directory steps = .error fault) :
    (makeDirectory directory (steps ++ [.name name])).run volume = (.error fault, volume) := by
  have htarget : volume.target directory (steps ++ [.name name]) = .error fault := by
    unfold Volume.target
    rw [List.getLast?_concat, List.dropLast_concat]
    simp only [h]
    rfl
  unfold makeDirectory
  rw [run_bind, run_look, htarget]

theorem run_makeDirectory_of_ok {directory parent : Place} {steps : List Step} {name : String}
    (h : volume.enter directory steps = .ok parent) :
    (makeDirectory directory (steps ++ [.name name])).run volume
      = match volume.entry parent name with
        | .error fault => (.error fault, volume)
        | .ok (some _) => (.error .fileExists, volume)
        | .ok none => (make (parent ++ [name]) .directory).run volume := by
  have htarget : volume.target directory (steps ++ [.name name]) = .ok (.named parent name) := by
    unfold Volume.target
    rw [List.getLast?_concat, List.dropLast_concat]
    simp only [h]
    rfl
  unfold makeDirectory
  rw [run_bind, run_look, htarget]
  simp only
  rw [run_bind, run_look]
  rcases volume.entry parent name with fault | _ | node
  · rfl
  · rfl
  · rfl

theorem run_makeDirectory_of_none {directory parent : Place} {steps : List Step} {name : String}
    (h : volume.enter directory steps = .ok parent) (hentry : volume.entry parent name = .ok none)
    (hsealed : volume.isSealed parent = false) :
    (makeDirectory directory (steps ++ [.name name])).run volume
      = (.ok (), volume.put (parent ++ [name]) .directory) := by
  rw [run_makeDirectory_of_ok h, hentry]
  simp only
  rw [run_make, List.dropLast_concat, if_neg (by simp [hsealed])]

/-- Where the last directory can be made at once, no other is made. -/
theorem run_makeDirectories_concat {steps : List Step} {name : String}
    (h : (makeDirectory start (steps ++ [.name name])).run volume = (.ok (), after)) :
    (makeDirectories start (steps ++ [Step.name name]).reverse).run volume = (.ok (), after) := by
  rw [List.reverse_concat]
  unfold makeDirectories
  simp only [List.reverse_cons, List.reverse_reverse]
  rw [run_tryCatch, h]

/-- Where a directory before the last is missing, those before it are made first. -/
theorem run_makeDirectories_concat_of_missing {steps : List Step} {name : String}
    (hmissing : volume.enter start steps = .error .noSuchFile)
    (hbefore : (makeDirectories start steps.reverse).run volume = (.ok (), middle))
    (hlast : (makeDirectory start (steps ++ [.name name])).run middle = (.ok (), after)) :
    (makeDirectories start (steps ++ [Step.name name]).reverse).run volume = (.ok (), after) := by
  rw [List.reverse_concat]
  unfold makeDirectories
  simp only [List.reverse_cons, List.reverse_reverse]
  rw [run_tryCatch, run_makeDirectory_of_error hmissing]
  simp only [if_true]
  rw [run_bind_of_ok hbefore, run_tryCatch, hlast]

theorem enter_root_append (hroot : volume.enter start root = .ok base) (names : List String) :
    volume.enter start (root ++ names.map .name) = volume.enter base (names.map .name) := by
  rw [Volume.enter_append, hroot]
  rfl

/-- Where no file is in the way, all directories are made that are missing. -/
theorem exists_run_makeDirectories (horderly : volume.Orderly base)
    (hroot : volume.enter start root = .ok base)
    (hshort : ∀ name ∈ names, name.utf8ByteSize ≤ Route.maxNameBytes)
    (hfree : volume.NoFileOn base names) :
    ∃ after, (makeDirectories start (root ++ names.map Step.name).reverse).run volume = (.ok (), after) ∧
      volume.PavedBy base names after := by
  induction names using List.reverseRecOn with
  | nil =>
    refine ⟨volume, ?_, Volume.pavedBy_of_paved ?_⟩
    · rw [List.map_nil, List.append_nil]
      exact run_makeDirectories_of_enter hroot
    · intro front hfront hpart
      exact absurd (List.prefix_nil.1 hpart) hfront
  | append_singleton names name ih =>
    have hshort' : ∀ other ∈ names, other.utf8ByteSize ≤ Route.maxNameBytes :=
      fun other hother => hshort other (by simp [hother])
    have hfree' := hfree.mono (List.prefix_append names [name])
    by_cases hall : volume.Paved base (names ++ [name])
    · refine ⟨volume, ?_, Volume.pavedBy_of_paved hall⟩
      apply run_makeDirectories_of_enter
      rw [enter_root_append hroot]
      exact horderly.enter_of_paved hshort hall
    have hnone : volume.get? (base ++ (names ++ [name])) = none := by
      rcases hget : volume.get? (base ++ (names ++ [name])) with _ | _ | content
      · rfl
      · exact absurd (Volume.paved_concat_iff.2 ⟨horderly.paved hget, hget⟩) hall
      · exact absurd hget (hfree _ (by simp) List.prefix_rfl content)
    -- Made in the directory before it, once that is there.
    have hmake : ∀ middle, volume.PavedBy base names middle →
        (makeDirectory start ((root ++ names.map Step.name) ++ [.name name])).run middle
          = (.ok (), middle.put (base ++ (names ++ [name])) .directory) := by
      intro middle hmiddle
      have hmiddle' := hmiddle.orderly horderly
      rw [← List.append_assoc]
      apply run_makeDirectory_of_none
      · rw [enter_root_append (hmiddle.enter_eq hroot)]
        exact hmiddle'.enter_of_paved hshort' hmiddle.paved
      · rw [hmiddle'.entry_eq names (hshort name (by simp)), hmiddle.get?_end, hnone]
      · exact hmiddle'.unsealed names
    rw [List.map_append, ← List.append_assoc]
    by_cases hfront : volume.Paved base names
    · have hpaved := Volume.pavedBy_of_paved hfront
      exact ⟨_, run_makeDirectories_concat (hmake volume hpaved), hpaved.put hnone⟩
    · have hmissing : volume.enter start (root ++ names.map .name) = .error .noSuchFile := by
        rw [enter_root_append hroot]
        exact horderly.enter_of_not_paved hshort' hfree' hfront
      obtain ⟨middle, hrun, hmiddle⟩ := ih hshort' hfree'
      exact ⟨_, run_makeDirectories_concat_of_missing hmissing hrun (hmake middle hmiddle),
        hmiddle.put hnone⟩

/-- Where a file is in the way, nothing is made. -/
theorem exists_run_makeDirectories_of_file (horderly : volume.Orderly base)
    (hroot : volume.enter start root = .ok base)
    (hshort : ∀ name ∈ names, name.utf8ByteSize ≤ Route.maxNameBytes)
    (hfile : ¬ volume.NoFileOn base names) :
    ∃ fault, (makeDirectories start (root ++ names.map Step.name).reverse).run volume
      = (.error fault, volume) := by
  have hblocked : volume.enter start (root ++ names.map .name) = .error .notADirectory := by
    rw [enter_root_append hroot]
    exact horderly.enter_of_file hshort hfile
  have hdirectory : volume.isDirectory start (root ++ names.map .name) = false := by
    unfold Volume.isDirectory
    rw [hblocked]
    rfl
  rcases List.eq_nil_or_concat names with rfl | ⟨front, name, hnames⟩
  · refine absurd ?_ hfile
    intro front hfront hpart
    exact absurd (List.prefix_nil.1 hpart) hfront
  rw [List.concat_eq_append] at hnames
  subst hnames
  have hreverse : (root ++ (front ++ [name]).map Step.name).reverse
      = .name name :: (root ++ front.map Step.name).reverse := by simp
  have hsteps : (Step.name name :: (root ++ front.map Step.name).reverse).reverse
      = root ++ (front ++ [name]).map Step.name := by simp
  have hlast : root ++ (front ++ [name]).map Step.name
      = (root ++ front.map Step.name) ++ [.name name] := by simp
  have hshort' : ∀ other ∈ front, other.utf8ByteSize ≤ Route.maxNameBytes :=
    fun other hother => hshort other (by simp [hother])
  -- The last directory cannot be made, for another reason than that one before it is missing.
  obtain ⟨fault, hfault, hmake⟩ : ∃ fault, fault ≠ .noSuchFile ∧
      (makeDirectory start (root ++ (front ++ [name]).map Step.name)).run volume
        = (.error fault, volume) := by
    rw [hlast]
    by_cases hfront : volume.NoFileOn base front
    · obtain ⟨content, hget⟩ := hfront.exists_file hfile
      have henter : volume.enter start (root ++ front.map .name) = .ok (base ++ front) := by
        rw [enter_root_append hroot]
        exact horderly.enter_of_paved hshort' (horderly.paved hget)
      refine ⟨.fileExists, nofun, ?_⟩
      rw [run_makeDirectory_of_ok henter, horderly.entry_eq front (hshort name (by simp)), hget]
    · refine ⟨.notADirectory, nofun, ?_⟩
      apply run_makeDirectory_of_error
      rw [enter_root_append hroot]
      exact horderly.enter_of_file hshort' hfront
  refine ⟨fault, ?_⟩
  rw [hreverse]
  unfold makeDirectories
  simp only [hsteps]
  rw [run_tryCatch, hmake]
  simp only [hfault, if_false]
  rw [run_bind_of_ok (run_get volume), hdirectory]
  rfl

end Disk

/-! ## Files at the end of a way -/

namespace Volume

variable {volume after : Volume} {path name : String} {base : Place} {front : List String}

/-- The path leads to the directory, and from there on by names to a file. -/
structure Descends (volume : Volume) (path : String) (base : Place) (names : List String) : Prop where
  usable : Route.parse path = .ok (Route.ofText path)
  noSlash : (Route.ofText path).trailingSlash = false
  noDot : (Route.ofText path).trailingDot = false
  through : ∃ root, volume.enter (volume.start (Route.ofText path)) root = .ok base ∧
    (Route.ofText path).steps = root ++ names.map .name
  short : ∀ name ∈ names, name.utf8ByteSize ≤ Route.maxNameBytes

theorem Descends.mono {names : List String} (h : volume.Descends path base names)
    (hstart : after.workingDirectory = volume.workingDirectory)
    (henter : ∀ directory middle steps, volume.enter directory steps = .ok middle →
      after.enter directory steps = .ok middle) : after.Descends path base names := by
  obtain ⟨root, hroot, hsteps⟩ := h.through
  refine ⟨h.usable, h.noSlash, h.noDot, ⟨root, henter _ _ _ ?_, hsteps⟩, h.short⟩
  unfold start at hroot ⊢
  rw [hstart]
  exact hroot

theorem Descends.steps_eq (h : volume.Descends path base (front ++ [name])) :
    ∃ root, volume.enter (volume.start (Route.ofText path)) root = .ok base ∧
      (Route.ofText path).steps = (root ++ front.map .name) ++ [.name name] := by
  obtain ⟨root, hroot, hsteps⟩ := h.through
  refine ⟨root, hroot, ?_⟩
  rw [hsteps]
  simp

theorem Descends.short_front (h : volume.Descends path base (front ++ [name])) :
    ∀ other ∈ front, other.utf8ByteSize ≤ Route.maxNameBytes :=
  fun other hother => h.short other (by simp [hother])

theorem Descends.locate_eq (h : volume.Descends path base (front ++ [name])) :
    volume.locate (Route.ofText path)
      = (volume.enter base (front.map .name)).map fun directory => .named directory name := by
  obtain ⟨root, hroot, hsteps⟩ := h.steps_eq
  unfold locate target
  rw [h.noDot, hsteps, List.getLast?_concat, List.dropLast_concat]
  simp only [Bool.false_eq_true, if_false]
  rw [Disk.enter_root_append hroot]

/-- What a way finds that no file is on: what stands at its end, if anything does. -/
theorem Descends.find_cases (h : volume.Descends path base (front ++ [name]))
    (horderly : volume.Orderly base) (hfree : volume.NoFileOn base front) :
    (volume.Leads path (base ++ front) name ∧ volume.Paved base front) ∨
      (volume.locate (Route.ofText path) = .error .noSuchFile ∧
        volume.get? (base ++ (front ++ [name])) = none) := by
  by_cases hpaved : volume.Paved base front
  · refine .inl ⟨⟨h.usable, h.noSlash, ?_, h.short name (by simp)⟩, hpaved⟩
    rw [h.locate_eq, horderly.enter_of_paved h.short_front hpaved]
    rfl
  · refine .inr ⟨?_, ?_⟩
    · rw [h.locate_eq, horderly.enter_of_not_paved h.short_front hfree hpaved]
      rfl
    · cases hget : volume.get? (base ++ (front ++ [name])) with
      | none => rfl
      | some node => exact absurd (horderly.paved hget) hpaved

theorem Descends.locate_of_file (h : volume.Descends path base (front ++ [name]))
    (horderly : volume.Orderly base) (hfile : ¬ volume.NoFileOn base front) :
    volume.locate (Route.ofText path) = .error .notADirectory := by
  rw [h.locate_eq, horderly.enter_of_file h.short_front hfile]
  rfl

/-- What a way finds that cannot lead to a file: a directory at its end, or a file on it. -/
theorem Descends.blocked_cases (h : volume.Descends path base (front ++ [name]))
    (horderly : volume.Orderly base)
    (hblocked : ¬ (volume.NoFileOn base front ∧
      volume.get? (base ++ (front ++ [name])) ≠ some .directory)) :
    (volume.Leads path (base ++ front) name ∧
        volume.get? (volume.child (base ++ front) name) = some .directory) ∨
      (¬ volume.NoFileOn base front ∧
        volume.locate (Route.ofText path) = .error .notADirectory) := by
  by_cases hfree : volume.NoFileOn base front
  · have hdirectory : volume.get? (base ++ (front ++ [name])) = some .directory := by
      by_contra hother
      exact hblocked ⟨hfree, hother⟩
    rcases h.find_cases horderly hfree with ⟨hleads, -⟩ | ⟨-, hnone⟩
    · refine .inl ⟨hleads, ?_⟩
      rw [horderly.child_eq]
      exact hdirectory
    · rw [hnone] at hdirectory
      cases hdirectory
  · exact .inr ⟨hfree, h.locate_of_file horderly hfree⟩

theorem read_of_error {fault : Fault} (husable : Route.parse path = .ok (Route.ofText path))
    (h : volume.locate (Route.ofText path) = .error fault) : volume.read path = .error fault := by
  unfold read
  simp only [bind, Except.bind, husable, h]

/-- A file is read where no file is on the way and no directory has its name. -/
theorem Descends.read_eq (h : volume.Descends path base (front ++ [name]))
    (horderly : volume.Orderly base) (hfree : volume.NoFileOn base front)
    (hname : volume.get? (base ++ (front ++ [name])) ≠ some .directory) :
    (∃ content, volume.get? (base ++ (front ++ [name])) = some (.file content) ∧
      volume.read path = .ok content) ∨
    (volume.get? (base ++ (front ++ [name])) = none ∧ volume.read path = .error .noSuchFile) := by
  rcases h.find_cases horderly hfree with ⟨hleads, -⟩ | ⟨hlocate, hnone⟩
  · have hplace := horderly.child_eq front name
    rcases hget : volume.get? (base ++ (front ++ [name])) with _ | _ | content
    · refine .inr ⟨rfl, ?_⟩
      have hentry : volume.entry (base ++ front) name = .ok none := by
        rw [entry_eq_ok_iff, hplace]
        exact ⟨hleads.short, hget⟩
      unfold read
      simp only [bind, Except.bind, hleads.usable, hleads.located, hentry]
      rfl
    · exact absurd hget hname
    · refine .inl ⟨content, rfl, read_eq_ok_iff.2 ⟨_, _, hleads, ?_⟩⟩
      rw [hplace, content?_eq_some_iff]
      exact hget
  · exact .inr ⟨hnone, read_of_error h.usable hlocate⟩

theorem Descends.exists_read_error (h : volume.Descends path base (front ++ [name]))
    (horderly : volume.Orderly base)
    (hblocked : ¬ (volume.NoFileOn base front ∧
      volume.get? (base ++ (front ++ [name])) ≠ some .directory)) :
    ∃ fault, volume.read path = .error fault := by
  rcases h.blocked_cases horderly hblocked with ⟨hleads, hdirectory⟩ | ⟨-, hlocate⟩
  · have hentry : volume.entry (base ++ front) name = .ok (some .directory) :=
      entry_eq_ok_iff.2 ⟨hleads.short, hdirectory⟩
    unfold read
    simp only [bind, Except.bind, hleads.usable, hleads.located, hentry]
    exact ⟨.isADirectory, rfl⟩
  · exact ⟨.notADirectory, read_of_error h.usable hlocate⟩

end Volume

namespace Disk

variable {volume : Volume} {path name : String} {base : Place} {front : List String}

theorem run_writeFile_of_leads {directory : Place} (h : volume.Leads path directory name)
    (hfile : volume.get? (volume.child directory name) ≠ some .directory)
    (hsealed : volume.isSealed (volume.child directory name).dropLast = false)
    (hlimit : volume.sizeLimit = none) (data : List UInt8) :
    (writeFile path data).run volume
      = (.ok (), volume.put (volume.child directory name) (.file data)) := by
  have hfill : ∀ middle : Volume, middle.sizeLimit = none →
      (fill (volume.child directory name) data).run middle
        = (.ok (), middle.put (volume.child directory name) (.file data)) := by
    intro middle hmiddle
    have hwrite : Content.write none 0 data [] = (.ok (), data) := Content.write_unlimited data []
    rw [run_fill, hmiddle, hwrite]
  unfold writeFile
  rcases hget : volume.get? (volume.child directory name) with _ | _ | content
  · have hopen : (openFile path).run volume
        = (.ok (volume.child directory name), volume.put (volume.child directory name) (.file [])) := by
      have hentry : volume.entry directory name = .ok none := Volume.entry_eq_ok_iff.2 ⟨h.short, hget⟩
      unfold openFile
      rw [run_bind, run_look, h.usable]
      simp only
      rw [run_bind, run_look, h.located]
      simp only [h.noSlash, Bool.false_eq_true, if_false]
      rw [run_bind, run_look, hentry]
      simp only
      rw [run_bind_of_ok (run_get volume), run_bind, run_make, hsealed]
      rfl
    have hlimit' : (volume.put (volume.child directory name) (.file [])).sizeLimit = none := hlimit
    rw [run_bind_of_ok hopen, hfill _ hlimit', Volume.put_put]
  · exact absurd hget hfile
  · rw [run_bind_of_ok (run_openFile_of_leads h (Volume.content?_eq_some_iff.2 hget)), hfill _ hlimit]

theorem run_writeFile_of_directory {directory : Place} (h : volume.Leads path directory name)
    (hdirectory : volume.get? (volume.child directory name) = some .directory) (data : List UInt8) :
    (writeFile path data).run volume = (.error .isADirectory, volume) := by
  have hentry : volume.entry directory name = .ok (some .directory) :=
    Volume.entry_eq_ok_iff.2 ⟨h.short, hdirectory⟩
  unfold writeFile openFile
  rw [run_bind, run_bind, run_look, h.usable]
  simp only
  rw [run_bind, run_look, h.located]
  simp only [h.noSlash, Bool.false_eq_true, if_false]
  rw [run_bind, run_look, hentry]
  rfl

theorem run_makeParents_of_descends (h : volume.Descends path base (front ++ [name])) :
    ∃ root, volume.enter (volume.start (Route.ofText path)) root = .ok base ∧
      (makeParents path).run volume = (makeDirectories (volume.start (Route.ofText path))
        (root ++ front.map Step.name).reverse).run volume := by
  obtain ⟨root, hroot, hsteps⟩ := h.steps_eq
  have hne : (Route.ofText path).steps ≠ [] := by
    rw [hsteps]
    simp
  refine ⟨root, hroot, ?_⟩
  rw [run_makeParents hne h.usable, hsteps, List.dropLast_concat]

/-- A file can be written where no file is in the way and no directory has its name. -/
theorem exists_run_write (h : volume.Descends path base (front ++ [name]))
    (horderly : volume.Orderly base) (hlimit : volume.sizeLimit = none)
    (hfree : volume.NoFileOn base front)
    (hname : volume.get? (base ++ (front ++ [name])) ≠ some .directory) (data : List UInt8) :
    ∃ middle, volume.PavedBy base front middle ∧
      (do makeParents path; writeFile path data : Disk Unit).run volume
        = (.ok (), middle.put (base ++ (front ++ [name])) (.file data)) := by
  obtain ⟨root, hroot, hparents⟩ := run_makeParents_of_descends h
  obtain ⟨middle, hrun, hmiddle⟩ := exists_run_makeDirectories horderly hroot h.short_front hfree
  refine ⟨middle, hmiddle, ?_⟩
  have horderly' := hmiddle.orderly horderly
  have hdescends := h.mono hmiddle.workingDirectory fun _ _ _ => hmiddle.enter_eq
  have hleads : middle.Leads path (base ++ front) name := by
    refine ⟨h.usable, h.noSlash, ?_, h.short name (by simp)⟩
    rw [hdescends.locate_eq, horderly'.enter_of_paved h.short_front hmiddle.paved]
    rfl
  have hplace := horderly'.child_eq front name
  rw [run_bind_of_ok (hparents.trans hrun), run_writeFile_of_leads hleads, hplace]
  · rw [hplace, hmiddle.get?_end]
    exact hname
  · rw [hplace, ← List.append_assoc, List.dropLast_concat]
    exact horderly'.unsealed front
  · rw [hmiddle.sizeLimit, hlimit]

theorem exists_run_write_error (h : volume.Descends path base (front ++ [name]))
    (horderly : volume.Orderly base)
    (hblocked : ¬ (volume.NoFileOn base front ∧
      volume.get? (base ++ (front ++ [name])) ≠ some .directory)) (data : List UInt8) :
    ∃ fault, (do makeParents path; writeFile path data : Disk Unit).run volume
      = (.error fault, volume) := by
  rcases h.blocked_cases horderly hblocked with ⟨hleads, hdirectory⟩ | ⟨hfile, -⟩
  · rw [run_bind_of_ok (run_makeParents_of_leads hleads), run_writeFile_of_directory hleads hdirectory]
    exact ⟨_, rfl⟩
  · obtain ⟨root, hroot, hparents⟩ := run_makeParents_of_descends h
    obtain ⟨fault, hrun⟩ := exists_run_makeDirectories_of_file horderly hroot h.short_front hfile
    rw [run_bind, hparents, hrun]
    exact ⟨_, rfl⟩

theorem run_removeFile_of_error {fault : Fault} (husable : Route.parse path = .ok (Route.ofText path))
    (h : volume.locate (Route.ofText path) = .error fault) :
    (removeFile path).run volume = (.error fault, volume) := by
  unfold removeFile
  rw [run_bind, run_look, husable]
  simp only
  rw [run_bind, run_look, h]

theorem run_removeFile_of_leads {directory : Place} (h : volume.Leads path directory name) :
    (removeFile path).run volume = match volume.get? (volume.child directory name) with
      | none => (.error .noSuchFile, volume)
      | some .directory => (.error .isADirectory, volume)
      | some (.file _) => (.ok (), volume.remove (directory ++ [name])) := by
  have hentry : volume.entry directory name = .ok (volume.get? (volume.child directory name)) :=
    Volume.entry_eq_ok_iff.2 ⟨h.short, rfl⟩
  unfold removeFile
  rw [run_bind, run_look, h.usable]
  simp only
  rw [run_bind, run_look, h.located]
  simp only
  rw [run_bind, run_look, hentry]
  rcases volume.get? (volume.child directory name) with _ | _ | content
  · rfl
  · rfl
  · simp only [h.noSlash]
    rfl

end Disk

end LessonHistory
