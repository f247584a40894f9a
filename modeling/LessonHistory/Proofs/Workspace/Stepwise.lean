-- Workspaces that carry changes out one after the other, and may stop before they are through. The
-- files that can be read then are those after the changes that were carried out. The workspace in
-- memory never stops. A directory stops where something is in the way of a file.
import LessonHistory.Proofs.Workspace.Layout

namespace LessonHistory

/-- A workspace that carries changes out from the first on, as far as it comes. -/
class StepwiseWorkspace (ω : Type) [Workspace ω] where
  Has : ω → FileState → Prop
  Admits : ω → String → Prop
  text?_eq {workspace : ω} {files : FileState} {path : String} (has : Has workspace files)
    (admits : Admits workspace path) : Workspace.text? workspace path = files.get? path
  apply_explained {workspace : ω} {files : FileState} {changes : List Change}
    (has : Has workspace files) (admits : ∀ change ∈ changes, Admits workspace change.path) :
    ∃ done undone, changes = done ++ undone ∧
      ((Workspace.apply workspace changes).1 = .ok () → undone = []) ∧
      Has (Workspace.apply workspace changes).2 (files.replay done) ∧
      ∀ path, Admits workspace path → Admits (Workspace.apply workspace changes).2 path

instance : StepwiseWorkspace MemoryWorkspace where
  Has workspace files := workspace.files = files
  Admits _ _ := True
  text?_eq := by
    rintro workspace _ path rfl -
    rfl
  apply_explained := by
    rintro workspace _ changes rfl -
    exact ⟨changes, [], (List.append_nil changes).symm, fun _ => rfl, rfl, fun _ _ => trivial⟩

instance : StepwiseWorkspace DirectoryWorkspace where
  Has workspace files := ∃ base, workspace.Holds base files
  Admits workspace path := DirectoryWorkspace.Usable workspace.root path
  text?_eq := by
    rintro workspace files path ⟨base, hholds⟩ husable
    exact hholds.text?_eq husable
  apply_explained := by
    rintro workspace files changes ⟨base, hholds⟩ husable
    obtain ⟨done, undone, hchanges, hall, hroot, hnext, -⟩ := hholds.exists_done husable
    refine ⟨done, undone, hchanges, hall, ⟨base, hnext⟩, ?_⟩
    intro path hpath
    show DirectoryWorkspace.Usable (workspace.apply changes).2.root path
    rw [hroot]
    exact hpath

/-- A workspace in memory that carries out only so many changes at a time, and then fails. -/
structure HaltingWorkspace where
  files : FileState
  limit : Nat
  cause : WorkspaceError
  deriving DecidableEq

instance : Workspace HaltingWorkspace where
  read workspace path := .ok (workspace.files.get? path)
  apply workspace changes :=
    (if changes.length ≤ workspace.limit then .ok () else .error workspace.cause,
      { workspace with files := workspace.files.replay (changes.take workspace.limit) })

instance : StepwiseWorkspace HaltingWorkspace where
  Has workspace files := workspace.files = files
  Admits _ _ := True
  text?_eq := by
    rintro workspace _ path rfl -
    rfl
  apply_explained := by
    rintro workspace _ changes rfl -
    refine ⟨changes.take workspace.limit, changes.drop workspace.limit,
      (List.take_append_drop _ _).symm, ?_, rfl, fun _ _ => trivial⟩
    intro hok
    replace hok : (if changes.length ≤ workspace.limit then Except.ok () else .error workspace.cause)
      = Except.ok () := hok
    by_cases hfits : changes.length ≤ workspace.limit
    · exact List.drop_eq_nil_of_le hfits
    · rw [if_neg hfits] at hok
      cases hok

end LessonHistory
